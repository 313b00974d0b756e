import ApiForge.Proofs.Publishing.Safety

/-!
# Outcomes of publishing

Publishing that can clear up ends in one of three ways. Everything is undone; or
the target is stranded at the backup, since the root leads through it or the way
back was in trouble as well; or the new client is in its place. Only the last one
returns, and it does not return where the backup's name is too long to be asked
for.
-/

namespace ApiForge.Publication

variable {trouble : Trouble} {publication : Publication} {files : List (Text × Text)}
  {manifest : Manifest} {start ground : Disk} {room : List Text} {run final : Run}

/-- Nothing outside keeps the staging folder or a folder at the backup from being removed. -/
structure ClearsUp (trouble : Trouble) (publication : Publication) : Prop where
  staging : StagingIsRemovable trouble publication
  backup : BackupIsRemovable trouble publication

theorem clearsUp_never (publication : Publication) : ClearsUp .never publication :=
  ⟨fun _ => rfl, fun _ => rfl⟩

/-- The new client is in its place. A file that was there before is at the backup, a folder is
gone, and everything else is as it was but for the root and the folders that lead to it. -/
structure IsPlaced (publication : Publication) (files : List (Text × Text)) (manifest : Manifest)
    (start disk : Disk) : Prop where
  target : ∃ set, completeSet files manifest = .ok set ∧
    disk.top.get? (Spot.target.place publication (publication.home start)) = some (.folder set)
  staging : disk.top.get? (Spot.staging.place publication (publication.home start)) = none
  backup : disk.top.get? (Spot.backup.place publication (publication.home start)) =
    (start.top.get? (Spot.target.place publication (publication.home start))).filter Node.isFile
  others : ∀ names, ¬ Spot.target.place publication (publication.home start) <+: names →
    ¬ Spot.backup.place publication (publication.home start) <+: names →
    disk.top.entryAt names = start.top.entryAt names ∨
      start.top.entryAt names = none ∧ disk.top.entryAt names = some .folder ∧
        names ∈ publication.rootPlaces start
  way : ∀ place ∈ publication.rootPlaces start,
    ¬ Spot.target.place publication (publication.home start) <+: place → disk.top.HasFolder place
  base : ¬ Spot.target.place publication (publication.home start) <+: start.base publication.root →
    disk.base publication.root = start.base publication.root

/-- The ways in which publishing ends. -/
inductive Ended (trouble : Trouble) (publication : Publication) (files : List (Text × Text))
    (manifest : Manifest) (start disk : Disk) : Except Abort Path → Prop where
  | undone (abort : Abort) (same : IsUndone publication start disk)
      (base : disk.base publication.root = start.base publication.root) :
      Ended trouble publication files manifest start disk (.error abort)
  | stranded (abort : Abort)
      (cause : EntersTarget publication start (publication.home start) ∨ ¬ MeetsOneFault trouble) :
      Ended trouble publication files manifest start disk (.error abort)
  | placed (placed : IsPlaced publication files manifest start disk)
      (short : Disk.isTooLong (Spot.backup.name publication) = false) :
      Ended trouble publication files manifest start disk (.ok publication.target)
  | unasked (placed : IsPlaced publication files manifest start disk)
      (long : Disk.isTooLong (Spot.backup.name publication) = true)
      (nothing : start.top.get? (Spot.target.place publication (publication.home start)) = none) :
      Ended trouble publication files manifest start disk (.error .unforeseen)

/-! ## The ground and the start -/

theorem filter_isFile_eq (node : Option Node) :
    node.filter Node.isFile =
      match node.map Node.entry with
      | some (.file bytes) => some (.file bytes)
      | _ => none := by
  rcases node with _ | ⟨bytes⟩ | ⟨entries⟩ <;> rfl

namespace Setting

/-- A file at the target of the ground was there at the start. -/
theorem filter_former (setting : Setting publication start ground room) :
    (former publication ground room).filter Node.isFile =
      (start.top.get? (Spot.target.place publication room)).filter Node.isFile := by
  have before : (start.top.get? (Spot.target.place publication room)).map Node.entry =
      start.top.entryAt (Spot.target.place publication room) := rfl
  have now : (former publication ground room).map Node.entry =
      ground.top.entryAt (Spot.target.place publication room) := rfl
  rw [filter_isFile_eq, filter_isFile_eq, before, now]
  rcases setting.kept (Spot.target.place publication room) with same | ⟨nothing, folder, _⟩
  · rw [List.nil_append] at same
    rw [same]
  · rw [List.nil_append] at nothing folder
    rw [nothing, folder]

theorem nothing_of_former (setting : Setting publication start ground room)
    (nothing : former publication ground room = none) :
    start.top.get? (Spot.target.place publication room) = none :=
  Node.entryAt_eq_none_iff.mp (setting.kept.nothing (Node.entryAt_eq_none_iff.mpr nothing))

/-- The client is in its place once the staging folder holds nothing, the target the complete set
and the backup nothing but a file that was at the target. -/
theorem isPlaced (setting : Setting publication start ground room) {aside : Bool} {disk : Disk}
    {set : Folder} (whole : completeSet files manifest = .ok set)
    (stands : Stands publication ground room aside
      (hold none (some (.folder set)) ((former publication ground room).filter Node.isFile)) disk) :
    IsPlaced publication files manifest start disk := by
  have holds := stands.top
  constructor
  all_goals rw [setting.home]
  · exact ⟨set, whole, holds.inside .target⟩
  · exact holds.inside .staging
  · exact (holds.inside .backup).trans setting.filter_former
  · intro names noTarget noBackup
    by_cases inStaging : Spot.staging.place publication room <+: names
    · left
      have now : disk.top.entryAt names = none :=
        Node.entryAt_eq_none_iff.mpr (Node.get?_below inStaging (holds.inside .staging))
      have ofGround : ground.top.entryAt names = none :=
        Node.entryAt_eq_none_iff.mpr (Node.get?_below inStaging setting.stagingFree)
      rcases setting.kept names with same | ⟨_, folder, _⟩
      · rw [List.nil_append, ofGround] at same
        rw [now, same]
      · rw [List.nil_append, ofGround] at folder
        cases folder
    · have outside : ∀ spot : Spot, ¬ spot.place publication room <+: names := by
        intro spot
        cases spot <;> assumption
      rw [holds.outside names outside]
      exact setting.kept names
  · intro place member outside
    rw [rootPlaces, ← setting.base] at member
    have isFolder := setting.hasFolder_of_mem_way place member
    rw [Node.hasFolder_iff, holds.outside place (setting.not_inside isFolder outside)]
    exact Node.hasFolder_iff.mp isFolder
  · intro outside
    rw [← setting.base] at outside ⊢
    rw [stands.base, carried, Disk.relocate_outside outside, ite_self]

end Setting

/-- A backup's name that is free when the staging folder is made was free before. -/
theorem BackupIsFree.at_start (free : BackupIsFree trouble publication start) :
    start.top.get? (Spot.backup.place publication (publication.home start)) = none := by
  have begun : Trace start (fun _ _ => True) (Run.start start).changes (Run.start start).disk :=
    .start
  have kept := (Run.ensureFolder_spec trouble publication.root begun fun _ _ _ => trivial).2.1
  exact Node.entryAt_eq_none_iff.mp (kept.nothing (Node.entryAt_eq_none_iff.mpr free))

/-! ## From the staging folder to the end -/

/-- What comes of a publication if clearing up or what was before it failed, the former first. -/
def outcomeOf (publication : Publication) (cleared reason : Option Abort) : Except Abort Path :=
  match cleared.or reason with
  | some abort => .error abort
  | none => .ok publication.target

theorem finish_outcome (trouble : Trouble) (publication : Publication) (run : Run)
    (reason : Option Abort) :
    (publication.finish trouble run reason).2 = outcomeOf publication
      (publication.clearBackup trouble (publication.clearStaging trouble run)).2 reason := by
  unfold finish
  rcases publication.clearBackup trouble (publication.clearStaging trouble run) with ⟨last, abort⟩
  cases abort <;> cases reason <;> rfl

theorem Swapped.ended (setting : Setting publication start ground room)
    (clears : ClearsUp trouble publication)
    (swapped : Swapped publication files manifest start ground room run) :
    Ended trouble publication files manifest start (publication.finish trouble run none).1.disk
      (publication.finish trouble run none).2 := by
  rw [finish_run]
  cases swapped with
  | fresh set whole was reached =>
      obtain ⟨left, rest, ended, leaves, clear⟩ := reached.clear trouble setting
        (fun _ _ stands => stands.leads_of_kept setting.toGround (.inr was))
        fun _ _ _ _ stands => setting.targetState_of_complete stands.top whole rfl
      obtain rfl := leaves.noStaging rfl
      obtain rfl := leaves.noBackup rfl
      have placed : IsPlaced publication files manifest start _ :=
        setting.isPlaced whole (by rw [was]; exact ended.stands)
      rw [finish_outcome, clear]
      by_cases long : Disk.isTooLong (Spot.backup.name publication) = true
      · rw [if_pos long]
        exact .unasked placed long (by rw [setting.home]; exact setting.nothing_of_former was)
      · rw [if_neg long]
        exact .placed placed (eq_false_of_ne_true long)
  | replaced set whole node was avoids short reached =>
      obtain ⟨left, rest, ended, leaves, clear⟩ := reached.clear trouble setting
        (fun _ _ stands => stands.leads_of_aside setting.toGround was.symm avoids)
        fun _ _ _ _ stands => setting.targetState_of_complete stands.top whole rfl
      obtain rfl := leaves.noStaging rfl
      obtain rfl := leaves.superseded clears.backup short rfl
      have stands := ended.stands
      rw [← was] at stands
      rw [finish_outcome, clear, short, if_neg Bool.false_ne_true]
      exact .placed (setting.isPlaced whole stands) short

/-- What failed before clearing up fails after it. -/
theorem exists_outcomeOf_eq_error (publication : Publication) (cleared : Option Abort)
    (abort : Abort) : ∃ other, outcomeOf publication cleared (some abort) = .error other := by
  cases cleared with
  | none => exact ⟨abort, rfl⟩
  | some other => exact ⟨other, rfl⟩

theorem GotTo.ended (setting : Setting publication start ground room)
    (clears : ClearsUp trouble publication) {reason : Option Abort}
    (got : GotTo trouble publication files manifest start ground room run reason) :
    Ended trouble publication files manifest start (publication.finish trouble run reason).1.disk
      (publication.finish trouble run reason).2 := by
  cases got with
  | swapped swapped => exact swapped.ended setting clears
  | waiting abort waiting _ cause =>
      obtain ⟨other, failed⟩ := exists_outcomeOf_eq_error publication
        (publication.clearBackup trouble (publication.clearStaging trouble run)).2 abort
      rw [finish_outcome, failed]
      exact .stranded other (cause.imp_left (entersTarget_iff setting).mpr)
  | staged abort staged _ =>
      obtain ⟨left, rest, ended, leaves, _⟩ := staged.clear trouble setting
        (fun _ _ stands => stands.leads_of_kept setting.toGround (.inl rfl))
        fun _ _ _ _ stands => setting.targetState_of_target stands.top rfl
      obtain rfl := leaves.noBackup rfl
      obtain rfl := leaves.removed clears.staging _ rfl
      obtain ⟨other, failed⟩ := exists_outcomeOf_eq_error publication
        (publication.clearBackup trouble (publication.clearStaging trouble run)).2 abort
      rw [finish_outcome, failed, finish_run]
      exact .undone other (setting.isUndone_of_holds ended.stands.top)
        (ended.stands.base.trans setting.base)

/-! ## Publishing -/

/-- Publishing that can clear up ends in one of the ways. -/
theorem ended_of_publish (token : '/' ∉ publication.token)
    (plain : ∀ file ∈ files, Path.IsPlain file.1)
    (free : BackupIsFree trouble publication start) (clears : ClearsUp trouble publication)
    {outcome : Except Abort Path}
    (published : publication.publish trouble files manifest (Run.start start) = (final, outcome)) :
    Ended trouble publication files manifest start final.disk outcome := by
  unfold publish at published
  split at published
  · cases published
    exact .undone _ (Node.Keeps.refl _ _ _) rfl
  · next accepted =>
      have named : publication.isNamed = true := by simpa using accepted
      rcases begun : publication.begin trouble (Run.start start) with ⟨run, failure⟩
      rw [begun] at published
      rcases begin_spec token named free files manifest begun with
        ⟨failed, unstarted⟩ | ⟨rfl, ground, setting, staged⟩
      · obtain ⟨abort, rfl⟩ := Option.ne_none_iff_exists'.mp failed
        cases published
        exact .undone abort unstarted.undone (by unfold Disk.base; rw [unstarted.place])
      · obtain ⟨last, reason, got, same⟩ := staged.exists_gotTo trouble setting plain
        have finished : publication.finish trouble last reason = (final, outcome) :=
          same.symm.trans published
        have ended := got.ended setting clears
        rwa [finished] at ended

/-- What returns has its client in place. -/
theorem isPlaced_of_ok (token : '/' ∉ publication.token)
    (plain : ∀ file ∈ files, Path.IsPlain file.1)
    (free : BackupIsFree trouble publication start) (clears : ClearsUp trouble publication)
    {path : Path}
    (published : publication.publish trouble files manifest (Run.start start) = (final, .ok path)) :
    path = publication.target ∧ IsPlaced publication files manifest start final.disk := by
  cases ended_of_publish token plain free clears published with
  | placed placed _ => exact ⟨rfl, placed⟩

/-! ## What was published -/

theorem insert_of_not_mem {α : Type} {name : Text} {known : List (Text × α)} (value : α)
    (new : name ∉ known.map (·.1)) : Keyed.insert name value known = known ++ [(name, value)] := by
  induction known with
  | nil => rfl
  | cons entry known ih =>
      rw [List.map_cons, List.mem_cons, not_or] at new
      rw [Keyed.insert, if_neg fun same => new.1 same.symm, ih new.2]
      rfl

/-- The folder holds the files with the bytes of their texts, and nothing else. -/
def HoldsExactly (files : List (Text × Text)) (entries : Folder) : Prop :=
  List.Forall₂ (fun file entry => ∃ bytes, Utf8.encode file.2 = .ok bytes ∧
    entry = (file.1, .file bytes)) files entries

/-- Files with distinct names that no entry has are added to the entries. -/
theorem exists_of_written (known : Folder) {set : Folder}
    (distinct : (known.map (·.1) ++ files.map (·.1)).Nodup)
    (whole : written files known = .ok set) :
    ∃ entries, set = known ++ entries ∧ HoldsExactly files entries := by
  induction files generalizing known with
  | nil =>
      cases whole
      exact ⟨[], (List.append_nil _).symm, .nil⟩
  | cons file files ih =>
      have new : file.1 ∉ known.map (·.1) := fun old =>
        (List.nodup_append.mp distinct).2.2 _ old _ List.mem_cons_self rfl
      obtain ⟨next, one, others⟩ := Success.of_bind (written_append [file] files known ▸ whole)
      rw [written_singleton] at one
      obtain ⟨bytes, encoded, rfl⟩ := Success.of_map one
      rw [insert_of_not_mem _ new] at others
      obtain ⟨entries, rfl, exactly⟩ := ih _ (by simpa using distinct) others
      exact ⟨(file.1, .file bytes) :: entries, by simp, .cons ⟨bytes, encoded, rfl⟩ exactly⟩

/-- A publication that returns names the target, which holds exactly the files and the manifest.
Nothing is left at the staging folder's place, at the backup just a file that was at the target, and
everything else is as it was but for the root and the folders that lead to it. -/
theorem holdsExactly_of_publish (token : '/' ∉ publication.token)
    (plain : ∀ file ∈ files, Path.IsPlain file.1)
    (distinct : (files.map (·.1) ++ [manifestFile]).Nodup)
    (free : BackupIsFree trouble publication start) (clears : ClearsUp trouble publication)
    {path : Path}
    (published : publication.publish trouble files manifest (Run.start start) = (final, .ok path)) :
    path = publication.target ∧
      (∃ entries, final.disk.top.get? (Spot.target.place publication (publication.home start)) =
          some (.folder entries) ∧
        HoldsExactly (files ++ [(manifestFile, manifest.stored)]) entries) ∧
      final.disk.top.get? (Spot.staging.place publication (publication.home start)) = none ∧
      final.disk.top.get? (Spot.backup.place publication (publication.home start)) =
        (start.top.get? (Spot.target.place publication (publication.home start))).filter
          Node.isFile ∧
      ∀ names, ¬ Spot.target.place publication (publication.home start) <+: names →
        ¬ Spot.backup.place publication (publication.home start) <+: names →
        final.disk.top.entryAt names = start.top.entryAt names ∨
          start.top.entryAt names = none ∧ final.disk.top.entryAt names = some .folder ∧
            names ∈ publication.rootPlaces start := by
  obtain ⟨rfl, placed⟩ := isPlaced_of_ok token plain free clears published
  obtain ⟨set, whole, target⟩ := placed.target
  obtain ⟨entries, same, exactly⟩ := exists_of_written [] (by simpa using distinct) whole
  rw [same] at target
  exact ⟨rfl, ⟨entries, target, exactly⟩, placed.staging, placed.backup, placed.others⟩

theorem holdsExactly_of_republish :
    (republish .never "x").2 = .ok (onShelf "x").target ∧
      (republish .never "x").1.disk.top.get? ["x".toList, ".n.k.staging.previous".toList] = none ∧
      ∃ entries, (republish .never "x").1.disk.top.get? ["x".toList, "n".toList] =
          some (.folder entries) ∧
        HoldsExactly [("types.ts", "a"), ("manifest.json", shelfManifest.stored)] entries := by
  have free : BackupIsFree .never (onShelf "x") shelf :=
    Node.entryAt_eq_none_iff.mp (by decide +kernel)
  have returned : (republish .never "x").2 = .ok (onShelf "x").target := by decide +kernel
  have published : republish .never "x" = ((republish .never "x").1, .ok (onShelf "x").target) :=
    (Prod.eta _).symm.trans (congrArg (Prod.mk _) returned)
  obtain ⟨_, target, _, backup, _⟩ := holdsExactly_of_publish (by decide) shelfFiles_plain (by decide)
    free (clearsUp_never _) published
  exact ⟨returned, backup, target⟩

/-- The disk with a file where the client goes. -/
def blockedShelf : Disk :=
  ⟨.folder [("x", .folder [("n", .file [0x6F, 0x6C, 0x64])])], []⟩

/-- A file that was at the target stays at the backup when publishing returns. -/
theorem backup_left_of_file :
    ∃ final, (onShelf "x").publish .never shelfFiles shelfManifest (Run.start blockedShelf) =
        (final, .ok (onShelf "x").target) ∧
      final.disk.top.entryAt ["x".toList, ".n.k.staging.previous".toList] =
        some (.file [0x6F, 0x6C, 0x64]) := by
  have returned : ((onShelf "x").publish .never shelfFiles shelfManifest
      (Run.start blockedShelf)).2 = .ok (onShelf "x").target := by decide +kernel
  exact ⟨_, (Prod.eta _).symm.trans (congrArg (Prod.mk _) returned), by decide +kernel⟩

end ApiForge.Publication
