import ApiForge.Proofs.Publishing.Steps

/-!
# Ends of publishing

What comes after the client was made or could not be made: a target that was set
aside is brought back if the root still leads to it, the staging folder goes
away, and so does the backup of a target that was replaced.
-/

namespace ApiForge.Publication

variable {trouble : Trouble} {publication : Publication} {files : List (Text × Text)}
  {manifest : Manifest} {start ground disk : Disk} {room : List Text} {moved aside : Bool}
  {held : Spot → Option Node} {run next : Run} {fault : FileFault}

/-- The failure is that something could not be written. -/
def IsOutputFailure (abort : Abort) : Prop :=
  ∃ cause, abort = .failed (.output cause)

theorem not_isOutputFailure_unforeseen : ¬ IsOutputFailure .unforeseen := by
  rintro ⟨_, ⟨⟩⟩

/-- Only a name that is too long leaves it open whether something is there. -/
theorem unforeseen_of_isPresent {path : Path} {abort : Abort}
    (unknown : disk.isPresent path = .error abort) : abort = .unforeseen := by
  unfold Disk.isPresent Disk.look at unknown
  split at unknown
  · cases unknown
  · cases unknown
    rfl
  · cases unknown

/-- The backup is not seen on the disk. -/
def NoBackup (publication : Publication) (disk : Disk) : Prop :=
  ∀ present, disk.isPresent publication.backup = .ok present → present = false

theorem Stands.noBackup (grounded : Ground publication ground room)
    (stands : Stands publication ground room aside held disk)
    (leads : disk.locate publication.root = .ok room) (nothing : held .backup = none) :
    NoBackup publication disk := by
  intro present seen
  change disk.isPresent (Spot.backup.path publication) = _ at seen
  rw [stands.isPresent_spot grounded leads, nothing] at seen
  split at seen
  · cases seen
  · exact (Except.ok.inj seen).symm

theorem noBackup_of_lost (lost : disk.locate publication.backup = .error .absent) :
    NoBackup publication disk := by
  intro present seen
  rw [Disk.isPresent_of_lost lost] at seen
  exact (Except.ok.inj seen).symm

/-! ## Recovering -/

/-- Without a backup there is nothing to bring back. -/
theorem restore_of_noBackup (trouble : Trouble) (noBackup : NoBackup publication run.disk) :
    (publication.restore trouble run).1 = run := by
  unfold restore needsRestoring
  cases seen : run.disk.isPresent publication.backup with
  | error abort => rfl
  | ok present =>
      rw [noBackup present seen]
      rfl

theorem recover_of_noBackup (trouble : Trouble) (fault : FileFault)
    (noBackup : NoBackup publication run.disk) :
    (publication.recover trouble run fault).1 = run := by
  have restored := restore_of_noBackup trouble noBackup
  unfold recover
  split
  · rfl
  · split
    · next same =>
        rw [same] at restored
        exact restored
    · next same =>
        rw [same] at restored
        exact restored

/-- A target that was set aside has to be brought back, if its backup can be asked for. -/
theorem Stands.needsRestoring (grounded : Ground publication ground room) {staging : Option Node}
    {node : Node}
    (stands : Stands publication ground room aside (hold staging none (some node)) disk)
    (leads : disk.locate publication.root = .ok room) :
    publication.needsRestoring disk =
      if Disk.isTooLong (Spot.backup.name publication) then .error .unforeseen else .ok true := by
  have atBackup := stands.isPresent_spot grounded leads .backup
  have atTarget := stands.isPresent_of_short grounded leads .target (by rintro ⟨⟩)
  change disk.isPresent publication.backup = _ at atBackup
  change disk.isPresent publication.target = .ok false at atTarget
  unfold Publication.needsRestoring
  rw [atBackup, atTarget]
  split <;> rfl

/-- A target that was set aside is brought back, unless the root is lost or the way back meets what
is not foreseen. -/
theorem Waiting.recover (setting : Setting publication start ground room)
    (waiting : Waiting publication files manifest start ground room run) {abort : Abort}
    (recovered : publication.recover trouble run fault = (next, abort)) :
    (¬ EntersTarget publication ground room ∧
      ∃ entries, Staged publication files manifest start ground room true entries next) ∨
    (Waiting publication files manifest start ground room next ∧
      (EntersTarget publication ground room ∨ ¬ IsOutputFailure abort)) := by
  have unforeseen := not_isOutputFailure_unforeseen
  have kept := waiting
  obtain ⟨set, node, was, short, reached⟩ := waiting
  by_cases enters : EntersTarget publication ground room
  · have lost := reached.stands.lost setting.toGround was.symm rfl enters .backup
    have same := recover_of_noBackup trouble fault (noBackup_of_lost lost)
    rw [recovered] at same
    dsimp only at same
    subst same
    exact .inr ⟨kept, .inl enters⟩
  have leads := reached.stands.leads_of_aside setting.toGround was.symm enters
  unfold Publication.recover at recovered
  split at recovered
  · cases recovered
    exact .inr ⟨kept, .inr unforeseen⟩
  unfold restore at recovered
  rw [reached.stands.needsRestoring setting.toGround leads] at recovered
  rw [short, if_neg Bool.false_ne_true] at recovered
  dsimp only at recovered
  rcases attempted : run.attempt trouble (.move publication.backup publication.target) with
    ⟨later, outcome⟩
  rw [attempted] at recovered
  rcases reached.attempt attempted with ⟨cause, rfl, still⟩ | ⟨rfl, made, changes⟩
  · cases recovered
    exact .inr ⟨.intro set node was short still, .inr unforeseen⟩
  · cases recovered
    have stands := reached.stands.bringBack setting.toGround leads made
    rw [← was] at stands
    have other : Spot.backup ≠ .target := by decide
    exact .inl ⟨enters, set, reached.extend made changes
      (setting.sound.move_ne_setAside other _) stands
      (setting.targetState_of_target stands.top rfl)⟩

/-- A target that was set aside is brought back if the way back meets no trouble. -/
theorem Waiting.isOutputFailure (setting : Setting publication start ground room)
    (waiting : Waiting publication files manifest start ground room run)
    (avoids : ¬ EntersTarget publication ground room) (foreseen : fault ≠ FileFault.unforeseen)
    (calm : trouble run.tried (.move publication.backup publication.target) = none) :
    IsOutputFailure (publication.recover trouble run fault).2 := by
  obtain ⟨set, node, was, short, reached⟩ := waiting
  have leads := reached.stands.leads_of_aside setting.toGround was.symm avoids
  obtain ⟨after, possible⟩ := reached.stands.exists_move setting.toGround leads .backup
    .target short (isTooLong_name setting.short) rfl rfl
  obtain ⟨next, made, _⟩ := Run.attempt_of_apply calm possible
  have restored : publication.restore trouble run = (next, none) := by
    unfold restore
    rw [reached.stands.needsRestoring setting.toGround leads, short, if_neg Bool.false_ne_true]
    dsimp only [Bool.not_false]
    rw [made]
  unfold Publication.recover
  split
  · exact absurd rfl foreseen
  · rw [restored]
    exact ⟨_, rfl⟩

/-! ## Clearing up -/

/-- Nothing outside keeps the staging folder from being removed. -/
def StagingIsRemovable (trouble : Trouble) (publication : Publication) : Prop :=
  ∀ number, trouble number (.removeFolder publication.staging) = none

/-- The staging folder goes away, unless it cannot be removed. -/
theorem Reached.clearStaging (trouble : Trouble) (setting : Setting publication start ground room)
    {staging target backup : Option Node}
    (reached : Reached publication files manifest start ground room moved aside
      (hold staging target backup) run)
    (leads : run.disk.locate publication.root = .ok room)
    (state : ∀ disk, Stands publication ground room aside (hold none target backup) disk →
      TargetState publication files manifest start disk) :
    ∃ left, Reached publication files manifest start ground room moved aside
        (hold left target backup) (publication.clearStaging trouble run) ∧
      (staging = none → left = none) ∧
      (StagingIsRemovable trouble publication → ∀ entries, staging = some (.folder entries) →
        left = none) := by
  have seen := reached.stands.isPresent_of_short setting.toGround leads .staging (by rintro ⟨⟩)
  change run.disk.isPresent publication.staging = .ok staging.isSome at seen
  unfold Publication.clearStaging
  rw [seen]
  cases staging with
  | none => exact ⟨none, reached, id, fun _ _ _ => rfl⟩
  | some node =>
      change ∃ left, Reached publication files manifest start ground room moved aside
        (hold left target backup) (run.attempt trouble (.removeFolder publication.staging)).1 ∧ _
      rcases attempted : run.attempt trouble (.removeFolder publication.staging) with
        ⟨next, outcome⟩
      rcases reached.attempt attempted with ⟨cause, rfl, still⟩ | ⟨rfl, made, changes⟩
      · refine ⟨some node, still, id, fun calm entries folder => ?_⟩
        obtain ⟨after, possible⟩ :=
          reached.stands.exists_removeFolder setting.toGround leads .staging setting.short
            folder
        obtain ⟨_, success, _⟩ := Run.attempt_of_apply (calm run.tried) possible
        rw [success] at attempted
        cases attempted
      · have stands : Stands publication ground room aside (hold none target backup) next.disk :=
          reached.stands.removeFolder setting.toGround leads .staging _ made rfl
            (by intro spot; cases spot <;> simp [hold])
        exact ⟨none, reached.extend made changes (by rintro ⟨⟩) stands (state _ stands),
          fun _ => rfl, fun _ _ _ => rfl⟩

theorem unforeseen_of_isSuperseded {abort : Abort}
    (unknown : publication.isSuperseded disk = .error abort) : abort = .unforeseen := by
  unfold isSuperseded at unknown
  cases atBackup : disk.isPresent publication.backup with
  | error other =>
      rw [atBackup] at unknown
      cases unknown
      exact unforeseen_of_isPresent atBackup
  | ok present =>
      rw [atBackup] at unknown
      cases present with
      | false => cases unknown
      | true => exact unforeseen_of_isPresent unknown

theorem Stands.isSuperseded (grounded : Ground publication ground room)
    {staging target backup : Option Node}
    (stands : Stands publication ground room aside (hold staging target backup) disk)
    (leads : disk.locate publication.root = .ok room) :
    publication.isSuperseded disk =
      if Disk.isTooLong (Spot.backup.name publication) then .error .unforeseen
      else .ok (backup.isSome && target.isSome) := by
  have atBackup := stands.isPresent_spot grounded leads .backup
  have atTarget := stands.isPresent_of_short grounded leads .target (by rintro ⟨⟩)
  change disk.isPresent publication.backup = _ at atBackup
  change disk.isPresent publication.target = .ok target.isSome at atTarget
  unfold Publication.isSuperseded
  rw [atBackup, atTarget]
  split
  · rfl
  · cases backup <;> rfl

/-- Nothing outside keeps a folder at the backup from being removed. -/
def BackupIsRemovable (trouble : Trouble) (publication : Publication) : Prop :=
  ∀ number, trouble number (.removeFolder publication.backup) = none

/-- Only a name that is too long to be asked for keeps the backup from being cleared up. -/
theorem clearBackup_outcome (trouble : Trouble) (setting : Setting publication start ground room)
    {staging target backup : Option Node}
    (reached : Reached publication files manifest start ground room moved aside
      (hold staging target backup) run)
    (leads : run.disk.locate publication.root = .ok room) :
    (publication.clearBackup trouble run).2 =
      if Disk.isTooLong (Spot.backup.name publication) then some .unforeseen else none := by
  unfold Publication.clearBackup
  rw [reached.stands.isSuperseded setting.toGround leads]
  by_cases long : Disk.isTooLong (Spot.backup.name publication)
  · rw [if_pos long, if_pos long]
  · rw [if_neg long, if_neg long]
    cases backup.isSome && target.isSome <;> rfl

/-- The backup goes away if something else is at the target, unless it is a file or cannot be
removed. -/
theorem Reached.clearBackup (trouble : Trouble) (setting : Setting publication start ground room)
    {staging target backup : Option Node}
    (reached : Reached publication files manifest start ground room moved aside
      (hold staging target backup) run)
    (leads : run.disk.locate publication.root = .ok room)
    (state : ∀ disk, target.isSome →
      Stands publication ground room aside (hold staging target none) disk →
      TargetState publication files manifest start disk) :
    ∃ left, Reached publication files manifest start ground room moved aside
        (hold staging target left) (publication.clearBackup trouble run).1 ∧
      (backup = none → left = none) ∧
      (BackupIsRemovable trouble publication →
        Disk.isTooLong (Spot.backup.name publication) = false → target.isSome →
        left = backup.filter Node.isFile) := by
  unfold Publication.clearBackup
  rw [reached.stands.isSuperseded setting.toGround leads]
  by_cases long : Disk.isTooLong (Spot.backup.name publication)
  · rw [if_pos long]
    exact ⟨backup, reached, id, fun _ short => absurd long (by rw [short]; exact Bool.false_ne_true)⟩
  rw [if_neg long]
  have short : Disk.isTooLong (Spot.backup.name publication) = false := eq_false_of_ne_true long
  cases superseded : backup.isSome && target.isSome with
  | false =>
      refine ⟨backup, reached, id, fun _ _ present => ?_⟩
      rw [present, Bool.and_true, Option.isSome_eq_false_iff, Option.isNone_iff_eq_none] at superseded
      rw [superseded]
      rfl
  | true =>
      obtain ⟨_, present⟩ := Bool.and_eq_true_iff.mp superseded
      dsimp only
      rcases attempted : run.attempt trouble (.removeFolder publication.backup) with
        ⟨next, outcome⟩
      rcases reached.attempt attempted with ⟨cause, rfl, still⟩ | ⟨rfl, made, changes⟩
      · refine ⟨backup, still, id, fun calm _ _ => ?_⟩
        rcases backup with _ | ⟨bytes⟩ | ⟨entries⟩
        · rfl
        · rfl
        · obtain ⟨after, possible⟩ :=
            reached.stands.exists_removeFolder setting.toGround leads .backup short rfl
          obtain ⟨_, success, _⟩ := Run.attempt_of_apply (calm run.tried) possible
          rw [success] at attempted
          cases attempted
      · have stands : Stands publication ground room aside (hold staging target none) next.disk :=
          reached.stands.removeFolder setting.toGround leads .backup _ made rfl
            (by intro spot; cases spot <;> simp [hold])
        obtain ⟨entries, rfl⟩ : ∃ entries, backup = some (.folder entries) :=
          reached.stands.exists_folder_of_removeFolder setting.toGround leads .backup made
        exact ⟨none, reached.extend made changes (by rintro ⟨⟩) stands (state _ present stands),
          fun _ => rfl, fun _ _ _ => rfl⟩

/-- What clearing up leaves at the staging folder's place and at the backup. -/
structure Leaves (trouble : Trouble) (publication : Publication)
    (staging target backup left rest : Option Node) : Prop where
  noStaging : staging = none → left = none
  removed : StagingIsRemovable trouble publication →
    ∀ entries, staging = some (.folder entries) → left = none
  noBackup : backup = none → rest = none
  superseded : BackupIsRemovable trouble publication →
    Disk.isTooLong (Spot.backup.name publication) = false → target.isSome →
    rest = backup.filter Node.isFile

/-- Clearing up leaves the target alone, and the backup too if nothing is at the target. -/
theorem Reached.clear (trouble : Trouble) (setting : Setting publication start ground room)
    {staging target backup : Option Node}
    (reached : Reached publication files manifest start ground room moved aside
      (hold staging target backup) run)
    (leads : ∀ left disk, Stands publication ground room aside (hold left target backup) disk →
      disk.locate publication.root = .ok room)
    (state : ∀ left rest disk, rest = backup ∨ target.isSome →
      Stands publication ground room aside (hold left target rest) disk →
      TargetState publication files manifest start disk) :
    ∃ left rest, Reached publication files manifest start ground room moved aside
        (hold left target rest)
        (publication.clearBackup trouble (publication.clearStaging trouble run)).1 ∧
      Leaves trouble publication staging target backup left rest ∧
      (publication.clearBackup trouble (publication.clearStaging trouble run)).2 =
        if Disk.isTooLong (Spot.backup.name publication) then some .unforeseen else none := by
  obtain ⟨left, cleared, noStaging, removed⟩ := reached.clearStaging trouble setting
    (leads _ _ reached.stands) fun disk => state _ _ disk (.inl rfl)
  have leadsOn := leads _ _ cleared.stands
  obtain ⟨rest, ended, noBackup, superseded⟩ := cleared.clearBackup trouble setting leadsOn
    fun disk present => state _ _ disk (.inr present)
  exact ⟨left, rest, ended, ⟨noStaging, removed, noBackup, superseded⟩,
    clearBackup_outcome trouble setting cleared leadsOn⟩

/-- Where the root leads nowhere, nothing can be cleared up. -/
theorem clear_of_lost (trouble : Trouble)
    (noStaging : run.disk.locate publication.staging = .error .absent)
    (noBackup : run.disk.locate publication.backup = .error .absent) :
    (publication.clearBackup trouble (publication.clearStaging trouble run)).1 = run := by
  have same : publication.clearStaging trouble run = run := by
    rw [clearStaging, Disk.isPresent_of_lost noStaging]
  rw [same, clearBackup, isSuperseded, Disk.isPresent_of_lost noBackup]
  rfl

/-- The run after clearing up, whatever the outcome was. -/
theorem finish_run (trouble : Trouble) (publication : Publication) (run : Run)
    (outcome : Option Abort) :
    (publication.finish trouble run outcome).1 =
      (publication.clearBackup trouble (publication.clearStaging trouble run)).1 := by
  unfold finish
  split
  · next same => rw [same]
  · next same =>
      rw [same]
      split <;> rfl

/-- Clearing up is never what could not be written. -/
theorem outcome_of_finish {final : Run} {outcome : Option Abort} {abort : Abort}
    (finished : publication.finish trouble run outcome = (final, .error abort))
    (failed : IsOutputFailure abort) : outcome = some abort := by
  unfold finish at finished
  split at finished
  · next cleared =>
      cases finished
      unfold clearBackup at cleared
      split at cleared
      · next unknown =>
          cases cleared
          rw [unforeseen_of_isSuperseded unknown] at failed
          exact absurd failed not_isOutputFailure_unforeseen
      · cases cleared
      · cases cleared
  · split at finished
    · cases finished
      rfl
    · cases finished

/-! ## Before clearing up -/

/-- At most one change is in trouble, and for a reason that is foreseen. -/
structure MeetsOneFault (trouble : Trouble) : Prop where
  once : ∀ {number other change next}, trouble number change ≠ none → trouble other next ≠ none →
    number = other
  foreseen : ∀ number change, trouble number change ≠ some .unforeseen

theorem meetsOneFault_never : MeetsOneFault .never :=
  ⟨fun met => absurd rfl met, fun _ _ met => nomatch met⟩

/-- How far publishing got before it clears up, and why it failed if it did. -/
inductive GotTo (trouble : Trouble) (publication : Publication) (files : List (Text × Text))
    (manifest : Manifest) (start ground : Disk) (room : List Text) (run : Run) :
    Option Abort → Prop where
  | staged {moved : Bool} {entries : Folder} (abort : Abort)
      (staged : Staged publication files manifest start ground room moved entries run)
      (avoids : moved = true → ¬ EntersTarget publication ground room) :
      GotTo trouble publication files manifest start ground room run (some abort)
  | waiting (abort : Abort)
      (waiting : Waiting publication files manifest start ground room run)
      (unwritten : EntersTarget publication ground room ∨ ¬ IsOutputFailure abort)
      (cause : EntersTarget publication ground room ∨ ¬ MeetsOneFault trouble) :
      GotTo trouble publication files manifest start ground room run (some abort)
  | swapped (swapped : Swapped publication files manifest start ground room run) :
      GotTo trouble publication files manifest start ground room run none

/-- From the staging folder on publishing gets somewhere and clears up there. -/
theorem Staged.exists_gotTo (trouble : Trouble) (setting : Setting publication start ground room)
    (plain : ∀ file ∈ files, Path.IsPlain file.1)
    (staged : Staged publication files manifest start ground room false [] run) :
    ∃ last reason, GotTo trouble publication files manifest start ground room last reason ∧
      (match publication.carryOut trouble files manifest run with
        | (run, none) => publication.finish trouble run none
        | (run, some fault) =>
            let (run, abort) := publication.recover trouble run fault
            publication.finish trouble run (some abort)) =
        publication.finish trouble last reason := by
  rcases carried : publication.carryOut trouble files manifest run with ⟨later, fault⟩
  rcases staged.carryOut setting plain carried with ⟨rfl, swapped⟩ | ⟨failing, unswapped⟩
  · exact ⟨later, none, .swapped swapped, rfl⟩
  obtain ⟨cause, rfl⟩ := Option.ne_none_iff_exists'.mp failing
  rcases recovered : publication.recover trouble later cause with ⟨last, abort⟩
  refine ⟨last, some abort, ?_, by dsimp only; rw [recovered]⟩
  rcases unswapped with ⟨entries, staged⟩ | ⟨waiting, met⟩
  · have same := recover_of_noBackup trouble cause
      (staged.stands.noBackup setting.toGround (staged.leads setting) rfl)
    rw [recovered] at same
    dsimp only at same
    subst same
    exact .staged abort staged fun impossible => nomatch impossible
  · rcases waiting.recover setting recovered with ⟨avoids, entries, staged⟩ | ⟨still, why⟩
    · exact .staged abort staged fun _ => avoids
    refine .waiting abort still why ?_
    rcases met with enters | ⟨number, change, met, tried⟩
    · exact .inl enters
    -- the swap itself met the only trouble, so the way back met none
    by_contra neither
    obtain ⟨avoids, single⟩ := not_or.mp neither
    have single := not_not.mp single
    have calm : trouble later.tried (.move publication.backup publication.target) = none := by
      by_contra again
      have same := single.once (met.trans_ne (Option.some_ne_none cause)) again
      omega
    have foreseen : cause ≠ FileFault.unforeseen := by
      rintro rfl
      exact single.foreseen number change met
    have output := waiting.isOutputFailure setting avoids foreseen calm
    rw [recovered] at output
    exact why.elim avoids fun unwritten => unwritten output

end ApiForge.Publication
