import ApiForge.Proofs.Publishing.Ending

/-!
# Safety of publishing

A client is published safely: at every moment the target is what it was, the
complete new set, or set aside whole. If publishing fails, everything is undone,
unless the root leads through the target itself and is lost once this has been
set aside.
-/

namespace ApiForge.Publication

variable {trouble : Trouble} {publication : Publication} {files : List (Text × Text)}
  {manifest : Manifest} {start ground : Disk} {room : List Text} {moved : Bool}
  {run final : Run} {entries : Folder}

/-- The target was set aside although the root leads through it. -/
def IsLost (publication : Publication) (start : Disk) (final : Run) : Prop :=
  EntersTarget publication start (publication.home start) ∧
    .move publication.target publication.backup ∈ final.changes

/-- What is known at the end: the target was safe all along, and after a failure everything is undone
unless the root was lost. -/
structure Settled (trouble : Trouble) (publication : Publication) (files : List (Text × Text))
    (manifest : Manifest) (start : Disk) (failed : Prop) (final : Run) : Prop where
  trace : Trace start (fun _ disk => TargetState publication files manifest start disk)
    final.changes final.disk
  undone : failed → StagingIsRemovable trouble publication →
    (IsUndone publication start final.disk ↔ ¬ IsLost publication start final)

theorem entersTarget_iff (setting : Setting publication start ground room) :
    EntersTarget publication start (publication.home start) ↔
      EntersTarget publication ground room := by
  unfold EntersTarget
  rw [setting.home, setting.base]

/-! ## From the staging folder to the end -/

/-- A target that is where it was stays there, and the staging folder goes away. -/
theorem Staged.settled (trouble : Trouble) (setting : Setting publication start ground room)
    (staged : Staged publication files manifest start ground room moved entries run)
    (avoids : moved = true → ¬ EntersTarget publication ground room) (failed : Prop) :
    Settled trouble publication files manifest start failed
      (publication.clearBackup trouble (publication.clearStaging trouble run)).1 := by
  obtain ⟨left, rest, ended, leaves, _⟩ := staged.clear trouble setting
    (fun _ _ stands => stands.leads_of_kept setting.toGround (.inl rfl))
    fun _ _ _ _ stands => setting.targetState_of_target stands.top rfl
  refine ⟨ended.trace, fun _ calm => ?_⟩
  have holds := ended.stands.top
  rw [leaves.noBackup rfl, leaves.removed calm entries rfl] at holds
  refine iff_of_true (setting.isUndone_of_holds holds) ?_
  rintro ⟨enters, wasMoved⟩
  exact avoids (ended.setAside.mp wasMoved) ((entersTarget_iff setting).mp enters)

/-- A target that was set aside stays in the backup's place; nothing more can be done if the root is
lost. -/
theorem Waiting.settled (trouble : Trouble) (setting : Setting publication start ground room)
    (waiting : Waiting publication files manifest start ground room run) {failed : Prop}
    (lost : EntersTarget publication ground room ∨ ¬ failed) :
    Settled trouble publication files manifest start failed
      (publication.clearBackup trouble (publication.clearStaging trouble run)).1 := by
  obtain ⟨set, node, was, _, reached⟩ := waiting
  by_cases enters : EntersTarget publication ground room
  · have nowhere := reached.stands.lost setting.toGround was.symm rfl enters
    rw [clear_of_lost trouble (nowhere .staging) (nowhere .backup)]
    refine ⟨reached.trace, fun _ _ => iff_of_false ?_ ?_⟩
    · exact setting.not_isUndone_of_staged reached.stands.top rfl
    · exact not_not_intro ⟨(entersTarget_iff setting).mpr enters, reached.setAside.mpr rfl⟩
  · obtain ⟨_, _, ended, _⟩ := reached.clear trouble setting
      (fun _ _ stands => stands.leads_of_aside setting.toGround was.symm enters)
      fun _ _ _ kept stands => setting.targetState_of_backup stands.top was rfl
        (kept.resolve_right Bool.false_ne_true)
    exact ⟨ended.trace, fun failure => absurd failure (lost.resolve_left enters)⟩

/-- A complete set at the target stays there. -/
theorem Swapped.settled (trouble : Trouble) (setting : Setting publication start ground room)
    (swapped : Swapped publication files manifest start ground room run) {failed : Prop}
    (succeeded : ¬ failed) :
    Settled trouble publication files manifest start failed
      (publication.clearBackup trouble (publication.clearStaging trouble run)).1 := by
  refine ⟨?_, fun failure => absurd failure succeeded⟩
  cases swapped with
  | fresh set whole was reached =>
      obtain ⟨_, _, ended, _⟩ := reached.clear trouble setting
        (fun _ _ stands => stands.leads_of_kept setting.toGround (.inr was))
        fun _ _ _ _ stands => setting.targetState_of_complete stands.top whole rfl
      exact ended.trace
  | replaced set whole node was avoids _ reached =>
      obtain ⟨_, _, ended, _⟩ := reached.clear trouble setting
        (fun _ _ stands => stands.leads_of_aside setting.toGround was.symm avoids)
        fun _ _ _ _ stands => setting.targetState_of_complete stands.top whole rfl
      exact ended.trace

/-! ## From the start to the staging folder -/

/-- The name of the backup is free when the staging folder is about to be made. -/
def BackupIsFree (trouble : Trouble) (publication : Publication) (start : Disk) : Prop :=
  ((Run.start start).ensureFolder trouble publication.root).1.disk.top.get?
    (Spot.backup.place publication (publication.home start)) = none

/-- Nothing but the root was made. -/
structure Unstarted (publication : Publication) (files : List (Text × Text)) (manifest : Manifest)
    (start : Disk) (run : Run) : Prop where
  trace : Trace start (fun _ disk => TargetState publication files manifest start disk)
    run.changes run.disk
  still : .move publication.target publication.backup ∉ run.changes
  undone : IsUndone publication start run.disk
  place : run.disk.place = start.place

theorem unstarted_ensureFolder (trouble : Trouble) (publication : Publication)
    (files : List (Text × Text)) (manifest : Manifest) (start : Disk) :
    Unstarted publication files manifest start
      ((Run.start start).ensureFolder trouble publication.root).1 := by
  have begun : Trace start (fun change disk => (∃ path, change = .createFolder path) ∧
      TargetState publication files manifest start disk)
      (Run.start start).changes (Run.start start).disk := .start
  obtain ⟨place, kept, trace⟩ := Run.ensureFolder_spec trouble publication.root begun
    fun beginning disk kept => ⟨⟨_, rfl⟩, .untouched (kept.part _)⟩
  refine ⟨trace.mono fun _ _ allowed => allowed.2, ?_, kept, place⟩
  intro member
  obtain ⟨_, ⟨path, impossible⟩, _⟩ := trace.exists_allowed _ member
  cases impossible

/-- If only the root was made, everything is undone and nothing was lost. -/
theorem Unstarted.settled (unstarted : Unstarted publication files manifest start run)
    (trouble : Trouble) (failed : Prop) :
    Settled trouble publication files manifest start failed run :=
  ⟨unstarted.trace, fun _ _ => iff_of_true unstarted.undone fun lost => unstarted.still lost.2⟩

/-- An empty staging folder beside an untouched target is the ground for everything else. -/
theorem staged_of_createFolder {before next : Run} (sound : IsSound publication)
    (unstarted : Unstarted publication files manifest start before)
    (free : before.disk.top.get? (Spot.backup.place publication (publication.home start)) = none)
    (made : before.disk.apply (.createFolder publication.staging) = .ok next.disk)
    (changes : next.changes = before.changes ++ [.createFolder publication.staging]) :
    Setting publication start before.disk (publication.home start) ∧
      Staged publication files manifest start before.disk (publication.home start) false [] next := by
  obtain ⟨names, clean, located, nothing, after⟩ := Disk.of_createFolder made
  obtain ⟨room, leads, isFolder, short, rfl⟩ :=
    Disk.of_locate_child (sound.isPlain .staging) located
  have base : before.disk.base publication.root = start.base publication.root := by
    unfold Disk.base
    rw [unstarted.place]
  have home : publication.home start = room := by
    rw [Publication.home, ← base]
    exact (Disk.way_of_walk leads).1.symm
  rw [home] at free ⊢
  have setting : Setting publication start before.disk room :=
    { sound, leads, isFolder, short, clean, home, base
      stagingFree := nothing
      backupFree := free
      kept := unstarted.undone }
  have holds : Holds publication before.disk.top room
      (hold (some (.folder [])) (former publication before.disk room) none) next.disk.top := by
    rw [after]
    exact setting.holds.put isFolder rfl (by intro spot; cases spot <;> simp [hold])
  refine ⟨setting, ⟨holds, ?_⟩, ?_, ?_⟩
  · rw [after]
    rfl
  · rw [changes]
    exact .step unstarted.trace made (setting.targetState_of_target holds rfl)
  · rw [changes, List.mem_append, List.mem_singleton]
    exact iff_of_false (by simp [unstarted.still]) Bool.false_ne_true

/-- Nothing that keeps the staging folder from being made changes anything. -/
theorem begin_spec (token : '/' ∉ publication.token) (named : publication.isNamed = true)
    (free : BackupIsFree trouble publication start) {failure : Option Abort}
    (files : List (Text × Text)) (manifest : Manifest)
    (begun : publication.begin trouble (Run.start start) = (run, failure)) :
    (failure ≠ none ∧ Unstarted publication files manifest start run) ∨
      (failure = none ∧ ∃ ground, Setting publication start ground (publication.home start) ∧
        Staged publication files manifest start ground (publication.home start) false [] run) := by
  have unstarted := unstarted_ensureFolder trouble publication files manifest start
  unfold BackupIsFree at free
  unfold Publication.begin at begun
  rcases ensured : (Run.start start).ensureFolder trouble publication.root with ⟨before, fault⟩
  rw [ensured] at unstarted free begun
  cases fault with
  | some fault =>
      cases begun
      exact .inl ⟨Option.some_ne_none _, unstarted⟩
  | none =>
      dsimp only at begun unstarted free
      rcases attempted : before.attempt trouble (.createFolder publication.staging) with
        ⟨next, fault⟩
      rw [attempted] at begun
      cases fault with
      | some fault =>
          cases begun
          obtain ⟨disk, changes⟩ := Run.of_attempt_fault attempted
          refine .inl ⟨Option.some_ne_none _, ?_, ?_, ?_, ?_⟩
          · rw [disk, changes]
            exact unstarted.trace
          · rw [changes]
            exact unstarted.still
          · rw [disk]
            exact unstarted.undone
          · rw [disk]
            exact unstarted.place
      | none =>
          cases begun
          obtain ⟨made, changes⟩ := Run.of_attempt attempted
          exact .inr ⟨rfl, before.disk,
            staged_of_createFolder ⟨named, token⟩ unstarted free made changes⟩

/-- What is known after the staging folder was made. -/
theorem settled_of_gotTo (setting : Setting publication start ground room) {reason : Option Abort}
    (got : GotTo trouble publication files manifest start ground room run reason)
    {outcome : Except Abort Path}
    (finished : publication.finish trouble run reason = (final, outcome)) :
    Settled trouble publication files manifest start
      (∃ abort, outcome = .error abort ∧ IsOutputFailure abort) final := by
  have same := finish_run trouble publication run reason
  have ended : ∀ abort, outcome = .error abort → IsOutputFailure abort → reason = some abort := by
    rintro abort rfl failed
    exact outcome_of_finish finished failed
  rw [finished] at same
  dsimp only at same
  subst same
  cases got with
  | staged abort staged avoids => exact staged.settled trouble setting avoids _
  | waiting abort waiting unwritten _ =>
      refine waiting.settled trouble setting (unwritten.imp_right fun notOutput => ?_)
      rintro ⟨other, failed, isOutput⟩
      cases ended other failed isOutput
      exact notOutput isOutput
  | swapped swapped =>
      refine swapped.settled trouble setting ?_
      rintro ⟨abort, failed, isOutput⟩
      cases ended abort failed isOutput

/-! ## Publishing -/

/-- Whatever happens, the target was safe all along, and after a failure everything is undone unless
the root was lost. -/
theorem settled_of_publish (token : '/' ∉ publication.token)
    (plain : ∀ file ∈ files, Path.IsPlain file.1)
    (free : BackupIsFree trouble publication start) {outcome : Except Abort Path}
    (published : publication.publish trouble files manifest (Run.start start) = (final, outcome)) :
    Settled trouble publication files manifest start
      (∃ abort, outcome = .error abort ∧ IsOutputFailure abort) final := by
  unfold publish at published
  split at published
  · cases published
    refine ⟨.start, fun _ _ => iff_of_true (Node.Keeps.refl _ _ _) ?_⟩
    rintro ⟨_, ⟨⟩⟩
  · next accepted =>
      have named : publication.isNamed = true := by simpa using accepted
      rcases begun : publication.begin trouble (Run.start start) with ⟨run, failure⟩
      rw [begun] at published
      rcases begin_spec token named free files manifest begun with
        ⟨failed, unstarted⟩ | ⟨rfl, ground, setting, staged⟩
      · obtain ⟨abort, rfl⟩ := Option.ne_none_iff_exists'.mp failed
        cases published
        exact unstarted.settled trouble _
      · obtain ⟨last, reason, got, same⟩ := staged.exists_gotTo trouble setting plain
        exact settled_of_gotTo setting got (same.symm.trans published)

/-- The target is safe at every moment: after each change that is made it is what it was, the complete
new set, or absent with what it was in the backup's place. -/
theorem targetState_of_publish (token : '/' ∉ publication.token)
    (plain : ∀ file ∈ files, Path.IsPlain file.1)
    (free : BackupIsFree trouble publication start) {outcome : Except Abort Path}
    (published : publication.publish trouble files manifest (Run.start start) = (final, outcome)) :
    start.replay final.changes = .ok final.disk ∧
      ∀ before, before <+: final.changes → ∃ disk, start.replay before = .ok disk ∧
        TargetState publication files manifest start disk := by
  obtain ⟨trace, _⟩ := settled_of_publish token plain free published
  refine ⟨trace.replay, fun before early => ?_⟩
  obtain ⟨disk, reached, rfl | ⟨_, state⟩⟩ := trace.exists_passed early
  · exact ⟨disk, reached, .untouched (Node.Keeps.refl _ _ _)⟩
  · exact ⟨disk, reached, state⟩

/-- A disk with one client that was published before. -/
def shelf : Disk :=
  ⟨.folder [("x", .folder [("n", .folder [("old.txt", .file [0x6F, 0x6C, 0x64])])])], []⟩

/-- The client that takes its place, under a root that may lead there in several ways. -/
def onShelf (root : Text) : Publication :=
  ⟨.ofText root, "n", "k"⟩

def shelfFiles : List (Text × Text) :=
  [("types.ts", "a")]

def shelfManifest : Manifest :=
  { name := "n", title := "T", version := "1", description := none, sourceUrl := "u"
    baseUrl := none, generatedAt := "g", files := ["types.ts"], stats := ⟨0, 0, 0⟩ }

/-- The disk is full when the staging folder is to take the target's place. -/
def fullAtSwap (publication : Publication) : Trouble :=
  fun _ change =>
    if change = .move publication.staging publication.target then some (.other "disk full")
    else none

/-- What comes of publishing over it under a root. -/
def republish (trouble : Trouble) (root : Text) : Run × Except Abort Path :=
  (onShelf root).publish trouble shelfFiles shelfManifest (Run.start shelf)

theorem shelfFiles_plain : ∀ file ∈ shelfFiles, Path.IsPlain file.1 := by
  intro file member
  rw [List.mem_singleton.mp member]
  exact Path.isPlain_of_length (by decide) (by decide)

theorem targetState_of_fullAtSwap :
    (republish (fullAtSwap (onShelf "x")) "x").1.changes.length = 8 ∧
      ∀ before, before <+: (republish (fullAtSwap (onShelf "x")) "x").1.changes →
        ∃ disk, shelf.replay before = .ok disk ∧
          TargetState (onShelf "x") shelfFiles shelfManifest shelf disk := by
  have free : BackupIsFree (fullAtSwap (onShelf "x")) (onShelf "x") shelf :=
    Node.entryAt_eq_none_iff.mp (by decide +kernel)
  refine ⟨by decide +kernel, ?_⟩
  exact (targetState_of_publish (by decide) shelfFiles_plain free (Prod.eta _).symm).2

/-- A root that leads through the target may need folders in it. -/
theorem target_not_exact_through_root :
    ∃ before disk,
      before <+: (republish .never "x/n/sub/../..").1.changes ∧
      shelf.replay before = .ok disk ∧
      ¬ Node.Keeps [] shelf.top ["x".toList, "n".toList] disk.top ["x".toList, "n".toList] ∧
      (∀ set, completeSet shelfFiles shelfManifest = .ok set →
        disk.top.get? ["x".toList, "n".toList] ≠ some (.folder set)) ∧
      (disk.top.get? ["x".toList, "n".toList]).isSome := by
  refine ⟨[.createFolder (.ofText "x/n/sub")], ⟨.folder [("x", .folder [("n", .folder
    [("old.txt", .file [0x6F, 0x6C, 0x64]), ("sub", .folder [])])])], []⟩, ?_, rfl, ?_, ?_, rfl⟩
  · decide +kernel
  · intro kept
    rcases kept ["sub".toList] with same | ⟨_, _, ⟨⟩⟩
    exact absurd same (by decide)
  · intro set whole same
    have inSet : (completeSet shelfFiles shelfManifest).toOption.map
        (fun set => (Node.folder set).entryAt ["old.txt".toList]) = some none := by decide +kernel
    rw [whole] at inSet
    cases same
    exact absurd inSet (by decide)

/-- After a failure that something could not be written, everything is undone unless the root was
lost: unless it leads through the target and the target was set aside. -/
theorem isUndone_iff_of_publish (token : '/' ∉ publication.token)
    (plain : ∀ file ∈ files, Path.IsPlain file.1)
    (free : BackupIsFree trouble publication start)
    (removable : StagingIsRemovable trouble publication) {cause : OutputFault}
    (published : publication.publish trouble files manifest (Run.start start) =
      (final, .error (.failed (.output cause)))) :
    IsUndone publication start final.disk ↔ ¬ IsLost publication start final :=
  (settled_of_publish token plain free published).undone ⟨_, rfl, cause, rfl⟩ removable

theorem isUndone_of_fullAtSwap :
    (republish (fullAtSwap (onShelf "x")) "x").2 =
        .error (.failed (.output (.unwritable "x/n" "disk full"))) ∧
      IsUndone (onShelf "x") shelf (republish (fullAtSwap (onShelf "x")) "x").1.disk := by
  have free : BackupIsFree (fullAtSwap (onShelf "x")) (onShelf "x") shelf :=
    Node.entryAt_eq_none_iff.mp (by decide +kernel)
  have removable : StagingIsRemovable (fullAtSwap (onShelf "x")) (onShelf "x") := fun _ => rfl
  have failed : (republish (fullAtSwap (onShelf "x")) "x").2 =
      .error (.failed (.output (.unwritable "x/n" "disk full"))) := by decide +kernel
  have published : republish (fullAtSwap (onShelf "x")) "x" =
      ((republish (fullAtSwap (onShelf "x")) "x").1,
        .error (.failed (.output (.unwritable "x/n" "disk full")))) :=
    (Prod.eta _).symm.trans (congrArg (Prod.mk _) failed)
  have avoids : Spot.target.place (onShelf "x") ["x".toList] ∉
      Path.entered [] (onShelf "x").root.parts := by decide
  refine ⟨failed, (isUndone_iff_of_publish (by decide) shelfFiles_plain free removable
    published).mpr ?_⟩
  rintro ⟨enters, _⟩
  exact avoids enters

/-- If the root leads through the target, the staging folder may be left behind. -/
theorem not_isUndone_through_root :
    (∃ cause, (republish .never "x/n/..").2 = .error (.failed (.output cause))) ∧
      BackupIsFree .never (onShelf "x/n/..") shelf ∧
      StagingIsRemovable .never (onShelf "x/n/..") ∧
      ¬ IsUndone (onShelf "x/n/..") shelf (republish .never "x/n/..").1.disk := by
  refine ⟨⟨.unwritable "x/n/../n" ("[Errno 2] No such file or directory: " ++
    "'x/n/../.n.k.staging' -> 'x/n/../n'"), by decide +kernel⟩,
    Node.entryAt_eq_none_iff.mp (by decide +kernel), fun _ => rfl, ?_⟩
  intro undone
  rcases undone ["x".toList, ".n.k.staging".toList] with same | ⟨_, _, among⟩
  · exact absurd same (by decide +kernel)
  · exact absurd among (by decide)

end ApiForge.Publication
