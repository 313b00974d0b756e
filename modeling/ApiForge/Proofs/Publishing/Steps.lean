import ApiForge.Proofs.Publishing.TargetState

/-!
# Steps of publishing

How the run that publishes a client goes on from each of its states: files are
written into the staging folder, the target is set aside, and the staging folder
is swapped in. The target is in one of its states after every single change.
-/

namespace ApiForge

namespace Run

variable {trouble : Trouble} {run next : Run} {outcome : Option FileFault}

theorem attemptAll_of_made {change : Change} {rest : List Change}
    (made : run.attempt trouble change = (next, none)) :
    run.attemptAll trouble (change :: rest) = next.attemptAll trouble rest := by
  rw [attemptAll, made]

theorem attemptAll_of_fault {change : Change} {rest : List Change} {fault : FileFault}
    (failed : run.attempt trouble change = (next, some fault)) :
    run.attemptAll trouble (change :: rest) = (next, some fault) := by
  rw [attemptAll, failed]

theorem attemptAll_singleton (trouble : Trouble) (change : Change) (run : Run) :
    run.attemptAll trouble [change] = run.attempt trouble change := by
  rcases made : run.attempt trouble change with ⟨next, fault⟩
  cases fault with
  | none => exact attemptAll_of_made made
  | some fault => exact attemptAll_of_fault made

/-- Changes tried in order end with the first one that cannot be made. -/
theorem of_attemptAll_append {first second : List Change}
    (attempted : run.attemptAll trouble (first ++ second) = (next, outcome)) :
    (∃ middle, run.attemptAll trouble first = (middle, none) ∧
      middle.attemptAll trouble second = (next, outcome)) ∨
    (run.attemptAll trouble first = (next, outcome) ∧ outcome ≠ none) := by
  induction first generalizing run with
  | nil => exact .inl ⟨run, rfl, attempted⟩
  | cons change rest ih =>
      rw [List.cons_append] at attempted
      rcases made : run.attempt trouble change with ⟨later, fault⟩
      cases fault with
      | none =>
          rw [attemptAll_of_made made] at attempted ⊢
          exact ih attempted
      | some fault =>
          rw [attemptAll_of_fault made] at attempted ⊢
          cases attempted
          exact .inr ⟨rfl, fun impossible => nomatch impossible⟩

/-- The last change that was tried met trouble. -/
def MetTrouble (trouble : Trouble) (run : Run) (outcome : Option FileFault) : Prop :=
  ∃ number change, trouble number change = outcome ∧ run.tried = number + 1

/-- A change that could be made fails only in trouble. -/
theorem metTrouble_of_attempt {change : Change} {disk : Disk}
    (possible : run.disk.apply change = .ok disk)
    (attempted : run.attempt trouble change = (next, outcome)) (failed : outcome ≠ none) :
    MetTrouble trouble next outcome := by
  unfold attempt at attempted
  split at attempted
  · next fault met =>
      cases attempted
      exact ⟨run.tried, change, met, rfl⟩
  · rw [possible] at attempted
    cases attempted
    exact absurd rfl failed

end Run

namespace Publication

/-- A run of which it is known what the spots hold, that the target was in one of its states after
every change, and whether the target was set aside. -/
structure Reached (publication : Publication) (files : List (Text × Text)) (manifest : Manifest)
    (start ground : Disk) (room : List Text) (moved aside : Bool) (held : Spot → Option Node)
    (run : Run) : Prop where
  stands : Stands publication ground room aside held run.disk
  trace : Trace start (fun _ disk => TargetState publication files manifest start disk)
    run.changes run.disk
  setAside : .move publication.target publication.backup ∈ run.changes ↔ moved = true

variable {trouble : Trouble} {publication : Publication} {files : List (Text × Text)}
  {manifest : Manifest} {start ground : Disk} {room : List Text} {moved aside asideNext : Bool}
  {held heldNext : Spot → Option Node} {run next : Run} {outcome : Option FileFault}

namespace Reached

/-- An attempt is either made or leaves everything as it was. -/
theorem attempt {change : Change}
    (reached : Reached publication files manifest start ground room moved aside held run)
    (attempted : run.attempt trouble change = (next, outcome)) :
    (∃ fault, outcome = some fault ∧
      Reached publication files manifest start ground room moved aside held next) ∨
    (outcome = none ∧ run.disk.apply change = .ok next.disk ∧
      next.changes = run.changes ++ [change]) := by
  cases outcome with
  | none => exact .inr ⟨rfl, Run.of_attempt attempted⟩
  | some fault =>
      obtain ⟨disk, changes⟩ := Run.of_attempt_fault attempted
      refine .inl ⟨fault, rfl, ?_, ?_, ?_⟩
      · rw [disk]
        exact reached.stands
      · rw [disk, changes]
        exact reached.trace
      · rw [changes]
        exact reached.setAside

/-- A change other than setting the target aside leads on if it leads to a state of the target. -/
theorem extend {change : Change}
    (reached : Reached publication files manifest start ground room moved aside held run)
    (made : run.disk.apply change = .ok next.disk)
    (changes : next.changes = run.changes ++ [change])
    (other : change ≠ .move publication.target publication.backup)
    (stands : Stands publication ground room asideNext heldNext next.disk)
    (state : TargetState publication files manifest start next.disk) :
    Reached publication files manifest start ground room moved asideNext heldNext next := by
  refine ⟨stands, ?_, ?_⟩
  · rw [changes]
    exact .step reached.trace made state
  · rw [changes, List.mem_append, List.mem_singleton, reached.setAside]
    exact or_iff_left fun same => other same.symm

end Reached

/-! ## Filling the staging folder -/

/-- The staging folder holds these entries, and the target what it held. -/
abbrev Staged (publication : Publication) (files : List (Text × Text)) (manifest : Manifest)
    (start ground : Disk) (room : List Text) (moved : Bool) (entries : Folder) (run : Run) : Prop :=
  Reached publication files manifest start ground room moved false
    (hold (some (.folder entries)) (former publication ground room) none) run

namespace Staged

variable {entries : Folder}

theorem leads (setting : Setting publication start ground room)
    (staged : Staged publication files manifest start ground room moved entries run) :
    run.disk.locate publication.root = .ok room :=
  staged.stands.leads_of_kept setting.toGround (.inl rfl)

/-- Bytes are written into the staging folder, or it stays as it is. -/
theorem put (setting : Setting publication start ground room) {name : Text} {bytes : List UInt8}
    {change : Change}
    (staged : Staged publication files manifest start ground room moved entries run)
    (plain : Path.IsPlain name) (other : change ≠ .move publication.target publication.backup)
    (writes : ∀ disk after : Disk, disk.apply change = .ok after →
      disk.putFile (publication.staging.child name) bytes = .ok after)
    (attempted : run.attempt trouble change = (next, outcome)) :
    ∃ later, Staged publication files manifest start ground room moved later next ∧
      (outcome = none → later = Keyed.insert name (.file bytes) entries) := by
  rcases staged.attempt attempted with ⟨fault, rfl, kept⟩ | ⟨rfl, applied, changes⟩
  · exact ⟨entries, kept, fun impossible => nomatch impossible⟩
  · have stands : Stands publication ground room false
        (hold (some (.folder (Keyed.insert name (.file bytes) entries)))
          (former publication ground room) none) next.disk :=
      staged.stands.putFile setting.toGround (staged.leads setting) plain rfl
        (writes _ _ applied) rfl (by intro spot; cases spot <;> simp [hold])
    exact ⟨_, staged.extend applied changes other stands
      (setting.targetState_of_target stands.top rfl), fun _ => rfl⟩

/-- A text is written into the staging folder if it has bytes. -/
theorem fill (setting : Setting publication start ground room) {name text : Text}
    (staged : Staged publication files manifest start ground room moved entries run)
    (plain : Path.IsPlain name)
    (attempted : run.attempt trouble (.fillFile (publication.staging.child name) text) =
      (next, outcome)) :
    ∃ later, Staged publication files manifest start ground room moved later next ∧
      (outcome = none → written [(name, text)] entries = .ok later) := by
  cases encoded : Utf8.encode text with
  | error stretch =>
      rcases staged.attempt attempted with ⟨fault, rfl, kept⟩ | ⟨_, applied, _⟩
      · exact ⟨entries, kept, fun impossible => nomatch impossible⟩
      · change Disk.fillFile _ _ _ = _ at applied
        rw [Disk.fillFile, encoded] at applied
        cases applied
  | ok bytes =>
      have writes : ∀ disk after : Disk,
          disk.apply (.fillFile (publication.staging.child name) text) = .ok after →
            disk.putFile (publication.staging.child name) bytes = .ok after := by
        intro disk after applied
        change Disk.fillFile _ _ _ = _ at applied
        rwa [Disk.fillFile, encoded] at applied
      obtain ⟨later, kept, whole⟩ := staged.put setting plain (by rintro ⟨⟩) writes attempted
      refine ⟨later, kept, fun success => ?_⟩
      rw [whole success, written_singleton, encoded]
      rfl

/-- A file is written in two changes, and all of it is there after the second one. -/
theorem writing (setting : Setting publication start ground room) {name text : Text}
    (staged : Staged publication files manifest start ground room moved entries run)
    (plain : Path.IsPlain name)
    (attempted : run.attemptAll trouble (Run.writing (publication.staging.child name) text) =
      (next, outcome)) :
    ∃ later, Staged publication files manifest start ground room moved later next ∧
      (outcome = none → written [(name, text)] entries = .ok later) := by
  have empties : ∀ disk after : Disk,
      disk.apply (.emptyFile (publication.staging.child name)) = .ok after →
        disk.putFile (publication.staging.child name) [] = .ok after := fun _ _ made => made
  rw [Run.writing, ← List.singleton_append] at attempted
  rcases Run.of_attemptAll_append attempted with ⟨middle, first, second⟩ | ⟨failed, fault⟩
  · rw [Run.attemptAll_singleton] at first second
    obtain ⟨emptied, kept, whole⟩ := staged.put setting plain (by rintro ⟨⟩) empties first
    obtain ⟨later, filled, complete⟩ := kept.fill setting plain second
    refine ⟨later, filled, fun success => ?_⟩
    have again := complete success
    rwa [whole rfl, written_insert] at again
  · rw [Run.attemptAll_singleton] at failed
    obtain ⟨later, kept, _⟩ := staged.put setting plain (by rintro ⟨⟩) empties failed
    exact ⟨later, kept, fun success => absurd success fault⟩

/-- All files are in the staging folder if all of them could be written. -/
theorem filling (setting : Setting publication start ground room) {rest : List (Text × Text)}
    (staged : Staged publication files manifest start ground room moved entries run)
    (plain : ∀ file ∈ rest, Path.IsPlain file.1)
    (attempted : run.attemptAll trouble (publication.filling rest) = (next, outcome)) :
    ∃ later, Staged publication files manifest start ground room moved later next ∧
      (outcome = none → written rest entries = .ok later) := by
  induction rest generalizing run entries with
  | nil =>
      cases attempted
      exact ⟨entries, staged, fun _ => rfl⟩
  | cons file rest ih =>
      rw [Publication.filling, List.flatMap_cons] at attempted
      have plainFile := plain file List.mem_cons_self
      rcases Run.of_attemptAll_append attempted with ⟨middle, first, onward⟩ | ⟨failed, fault⟩
      · obtain ⟨now, kept, one⟩ := staged.writing setting plainFile first
        obtain ⟨later, filled, others⟩ :=
          ih kept (fun other member => plain other (List.mem_cons_of_mem _ member)) onward
        refine ⟨later, filled, fun success => ?_⟩
        rw [← List.singleton_append, written_append, one rfl]
        exact others success
      · obtain ⟨later, kept, _⟩ := staged.writing setting plainFile failed
        exact ⟨later, kept, fun success => absurd success fault⟩

/-- The manifest is in the staging folder if it could be written. -/
theorem addManifest (setting : Setting publication start ground room)
    (staged : Staged publication files manifest start ground room moved entries run)
    (attempted : publication.addManifest trouble manifest run = (next, outcome)) :
    ∃ later, Staged publication files manifest start ground room moved later next ∧
      (outcome = none → written [(manifestFile, manifest.stored)] entries = .ok later) := by
  unfold Publication.addManifest at attempted
  split at attempted
  · cases attempted
    exact ⟨entries, staged, fun impossible => nomatch impossible⟩
  · have plain : Path.IsPlain manifestFile := Path.isPlain_of_length (by decide) (by decide)
    exact staged.writing setting plain attempted

end Staged

/-! ## Swapping -/

/-- The target is set aside and nothing has taken its place. -/
inductive Waiting (publication : Publication) (files : List (Text × Text)) (manifest : Manifest)
    (start ground : Disk) (room : List Text) (run : Run) : Prop where
  | intro (set : Folder) (node : Node) (was : former publication ground room = some node)
      (short : Disk.isTooLong (Spot.backup.name publication) = false)
      (reached : Reached publication files manifest start ground room true true
        (hold (some (.folder set)) none (some node)) run)

/-- The complete set is at the target; what was there before, if anything, is at the backup. -/
inductive Swapped (publication : Publication) (files : List (Text × Text)) (manifest : Manifest)
    (start ground : Disk) (room : List Text) (run : Run) : Prop where
  | fresh (set : Folder) (whole : completeSet files manifest = .ok set)
      (was : former publication ground room = none)
      (reached : Reached publication files manifest start ground room false false
        (hold none (some (.folder set)) none) run)
  | replaced (set : Folder) (whole : completeSet files manifest = .ok set) (node : Node)
      (was : former publication ground room = some node)
      (avoids : ¬ EntersTarget publication ground room)
      (short : Disk.isTooLong (Spot.backup.name publication) = false)
      (reached : Reached publication files manifest start ground room true true
        (hold none (some (.folder set)) (some node)) run)

/-- What cannot be found cannot be moved. -/
theorem not_move_of_lost {disk after : Disk} {source target : Path} {cause : PlaceFault}
    (lost : disk.locate source = .error cause) : disk.apply (.move source target) ≠ .ok after := by
  intro made
  change disk.move _ _ = _ at made
  rw [Disk.move, lost] at made
  cases made

section

variable {set : Folder} {node : Node}

theorem Staged.setAside (setting : Setting publication start ground room)
    (staged : Staged publication files manifest start ground room false set run)
    (was : former publication ground room = some node)
    (made : run.disk.apply (.move publication.target publication.backup) = .ok next.disk)
    (changes : next.changes = run.changes ++ [.move publication.target publication.backup]) :
    Reached publication files manifest start ground room true true
      (hold (some (.folder set)) none (some node)) next := by
  have before := staged.stands
  rw [was] at before
  have stands := before.setAside setting.toGround (staged.leads setting) made
  refine ⟨stands, ?_, ?_⟩
  · rw [changes]
    exact .step staged.trace made (setting.targetState_of_backup stands.top was rfl rfl)
  · rw [changes]
    simp

/-- The staging folder takes the place of a target that was set aside, unless the root is lost. -/
theorem Reached.swapIn (setting : Setting publication start ground room)
    (whole : completeSet files manifest = .ok set)
    (was : former publication ground room = some node)
    (short : Disk.isTooLong (Spot.backup.name publication) = false)
    (reached : Reached publication files manifest start ground room true true
      (hold (some (.folder set)) none (some node)) run)
    (attempted : run.attempt trouble (.move publication.staging publication.target) =
      (next, outcome)) :
    (outcome = none ∧ Swapped publication files manifest start ground room next) ∨
      (outcome ≠ none ∧ Waiting publication files manifest start ground room next ∧
        (EntersTarget publication ground room ∨ Run.MetTrouble trouble next outcome)) := by
  rcases reached.attempt attempted with ⟨fault, rfl, kept⟩ | ⟨rfl, made, changes⟩
  · refine .inr ⟨Option.some_ne_none fault, .intro set node was short kept, ?_⟩
    by_cases enters : EntersTarget publication ground room
    · exact .inl enters
    · obtain ⟨after, possible⟩ := reached.stands.exists_move setting.toGround
        (reached.stands.leads_of_aside setting.toGround was.symm enters) .staging .target
        setting.short (isTooLong_name setting.short) rfl rfl
      exact .inr (Run.metTrouble_of_attempt possible attempted (Option.some_ne_none fault))
  · left
    refine ⟨rfl, ?_⟩
    by_cases enters : EntersTarget publication ground room
    · exact absurd made
        (not_move_of_lost (reached.stands.lost setting.toGround was.symm rfl enters .staging))
    · have stands := reached.stands.swapIn setting.toGround
        (reached.stands.leads_of_aside setting.toGround was.symm enters) made
      have other : Spot.staging ≠ .target := by decide
      exact .replaced set whole node was enters short (reached.extend made changes
        (setting.sound.move_ne_setAside other _) stands
        (setting.targetState_of_complete stands.top whole rfl))

/-- The swap puts the complete set at the target, or fails before or after the target was set
aside. -/
theorem Staged.swap (setting : Setting publication start ground room)
    (whole : completeSet files manifest = .ok set)
    (staged : Staged publication files manifest start ground room false set run)
    (attempted : publication.swap trouble run = (next, outcome)) :
    (outcome = none ∧ Swapped publication files manifest start ground room next) ∨
      (outcome ≠ none ∧ (Staged publication files manifest start ground room false set next ∨
        Waiting publication files manifest start ground room next ∧
          (EntersTarget publication ground room ∨ Run.MetTrouble trouble next outcome))) := by
  have present : run.disk.isPresent publication.target =
      .ok (former publication ground room).isSome :=
    staged.stands.isPresent_of_short setting.toGround (staged.leads setting) .target
      (by rintro ⟨⟩)
  unfold Publication.swap at attempted
  rw [present] at attempted
  dsimp only at attempted
  cases was : former publication ground room with
  | none =>
      rw [was] at attempted
      change run.attemptAll trouble [.move publication.staging publication.target] = _ at attempted
      rw [Run.attemptAll_singleton] at attempted
      rcases staged.attempt attempted with ⟨fault, rfl, kept⟩ | ⟨rfl, made, changes⟩
      · exact .inr ⟨Option.some_ne_none fault, .inl kept⟩
      · have before := staged.stands
        rw [was] at before
        have stands := before.swapIn setting.toGround (staged.leads setting) made
        have other : Spot.staging ≠ .target := by decide
        exact .inl ⟨rfl, .fresh set whole was (staged.extend made changes
          (setting.sound.move_ne_setAside other _) stands
          (setting.targetState_of_complete stands.top whole rfl))⟩
  | some node =>
      rw [was] at attempted
      change run.attemptAll trouble ([.move publication.target publication.backup] ++
        [.move publication.staging publication.target]) = _ at attempted
      rcases Run.of_attemptAll_append attempted with ⟨middle, first, second⟩ | ⟨failed, fault⟩
      · rw [Run.attemptAll_singleton] at first second
        obtain ⟨made, changes⟩ := Run.of_attempt first
        have short := staged.stands.short_of_move setting.toGround (staged.leads setting)
          .backup made
        rcases (staged.setAside setting was made changes).swapIn setting whole was short second with
          done | ⟨fault, waiting⟩
        · exact .inl done
        · exact .inr ⟨fault, .inr waiting⟩
      · rw [Run.attemptAll_singleton] at failed
        rcases staged.attempt failed with ⟨cause, _, kept⟩ | ⟨success, _, _⟩
        · exact .inr ⟨fault, .inl kept⟩
        · exact absurd success fault

/-- Carrying out puts the complete set at the target, or fails before or after the target was set
aside. -/
theorem Staged.carryOut (setting : Setting publication start ground room)
    (plain : ∀ file ∈ files, Path.IsPlain file.1)
    (staged : Staged publication files manifest start ground room false [] run)
    (attempted : publication.carryOut trouble files manifest run = (next, outcome)) :
    (outcome = none ∧ Swapped publication files manifest start ground room next) ∨
      (outcome ≠ none ∧
        ((∃ entries, Staged publication files manifest start ground room false entries next) ∨
          Waiting publication files manifest start ground room next ∧
            (EntersTarget publication ground room ∨ Run.MetTrouble trouble next outcome))) := by
  unfold Publication.carryOut at attempted
  rcases filled : run.attemptAll trouble (publication.filling files) with ⟨second, fault⟩
  obtain ⟨entries, staged, ofFiles⟩ := staged.filling setting plain filled
  rw [filled] at attempted
  cases fault with
  | some fault =>
      cases attempted
      exact .inr ⟨Option.some_ne_none fault, .inl ⟨entries, staged⟩⟩
  | none =>
      dsimp only at attempted
      rcases added : publication.addManifest trouble manifest second with ⟨third, fault⟩
      obtain ⟨set, staged, ofManifest⟩ := staged.addManifest setting added
      rw [added] at attempted
      cases fault with
      | some fault =>
          cases attempted
          exact .inr ⟨Option.some_ne_none fault, .inl ⟨set, staged⟩⟩
      | none =>
          have whole : completeSet files manifest = .ok set := by
            rw [completeSet, written_append, ofFiles rfl]
            exact ofManifest rfl
          rcases staged.swap setting whole attempted with done | ⟨fault, staged | waiting⟩
          · exact .inl done
          · exact .inr ⟨fault, .inl ⟨set, staged⟩⟩
          · exact .inr ⟨fault, .inr waiting⟩

end

end Publication

end ApiForge
