import ApiForge.Command.Program
import ApiForge.Proofs.Files.Trace

/-!
# The log of a crash

A run that ends in what nobody foresaw makes sure of the folder of its logs and
writes a log there. All other files are as they were.
-/

namespace ApiForge

namespace Node

variable {top earlier middle later : Node} {names other : List Text}

/-- The place holds the same file in both trees, or no file in either. -/
def SameFile (earlier later : Node) (names : List Text) : Prop :=
  ∀ bytes, later.get? names = some (.file bytes) ↔ earlier.get? names = some (.file bytes)

theorem SameFile.refl (top : Node) (names : List Text) : SameFile top top names :=
  fun _ => .rfl

theorem SameFile.trans (first : SameFile earlier middle names)
    (second : SameFile middle later names) : SameFile earlier later names :=
  fun bytes => (second bytes).trans (first bytes)

theorem SameFile.of_entryAt_eq (same : later.entryAt names = earlier.entryAt names) :
    SameFile earlier later names := by
  intro bytes
  rw [get?_eq_file_iff, get?_eq_file_iff, same]

/-- What is kept but for new folders has the same files. -/
theorem Keeps.sameFile {places : List (List Text)} (kept : Keeps places earlier [] later []) :
    SameFile earlier later names := by
  rcases kept names with same | ⟨before, after, _⟩
  · exact .of_entryAt_eq same
  · intro bytes
    rw [List.nil_append] at before after
    rw [get?_eq_file_iff, get?_eq_file_iff, before, after]
    simp

/-- Nothing is in what is no folder. -/
theorem get?_cons_of_not_hasFolder (notFolder : ¬ top.HasFolder names) (name : Text)
    (rest : List Text) : top.get? (names ++ name :: rest) = none := by
  rw [get?_append]
  rcases found : top.get? names with _ | ⟨bytes⟩ | ⟨entries⟩
  · rfl
  · rfl
  · exact absurd ⟨entries, found⟩ notFolder

theorem not_hasFolder_put (bytes : List UInt8) (notFolder : ¬ top.HasFolder names) :
    ¬ (top.put names (.file bytes)).HasFolder names := by
  rintro ⟨entries, found⟩
  obtain rfl | ⟨room, name, rfl⟩ := List.eq_nil_or_concat' names
  · cases found
  · by_cases isFolder : top.HasFolder room
    · rw [get?_put isFolder] at found
      cases found
    · rw [put_append, changeAt_of_not_hasFolder _ isFolder] at found
      exact notFolder ⟨entries, found⟩

/-- A file put in the place of anything but a folder changes no other file. -/
theorem sameFile_put (bytes : List UInt8) (notFolder : ¬ top.HasFolder names)
    (apart : other ≠ names) : SameFile top (top.put names (.file bytes)) other := by
  by_cases inside : names <+: other
  · obtain ⟨rest, rfl⟩ := inside
    cases rest with
    | nil => exact absurd (List.append_nil _) apart
    | cons name rest =>
        intro _
        rw [get?_cons_of_not_hasFolder notFolder,
          get?_cons_of_not_hasFolder (not_hasFolder_put bytes notFolder)]
  · obtain rfl | ⟨room, name, rfl⟩ := List.eq_nil_or_concat' names
    · exact absurd (List.nil_prefix) inside
    · exact .of_entryAt_eq ((changedAt_put room name top _).entries other inside)

end Node

namespace Disk

variable {disk middle after : Disk} {log path : Path} {bytes : List UInt8}

/-- The current folder stays where it is, and the files are the same but for the one that the path
leads to. -/
structure ChangesOnlyAt (log : Path) (disk after : Disk) : Prop where
  place : after.place = disk.place
  others : ∀ names, names ≠ Path.endOf (disk.base log) log.parts →
    Node.SameFile disk.top after.top names

namespace ChangesOnlyAt

theorem refl (log : Path) (disk : Disk) : ChangesOnlyAt log disk disk :=
  ⟨rfl, fun _ _ => .refl _ _⟩

theorem trans (first : ChangesOnlyAt log disk middle) (second : ChangesOnlyAt log middle after) :
    ChangesOnlyAt log disk after := by
  refine ⟨second.place.trans first.place, fun names apart => ?_⟩
  have base : middle.base log = disk.base log := by unfold base; rw [first.place]
  exact (first.others names apart).trans (second.others names (base ▸ apart))

theorem of_createFolder (made : disk.createFolder path = .ok after) :
    ChangesOnlyAt log disk after := by
  obtain ⟨names, _, _, nothing, rfl⟩ := Disk.of_createFolder made
  have kept := (Node.Keeps.refl [names] disk.top []).putFolder nothing List.mem_cons_self
  exact ⟨rfl, fun _ _ => kept.sameFile⟩

theorem of_putFile (made : disk.putFile log bytes = .ok after) : ChangesOnlyAt log disk after := by
  obtain ⟨names, placed, made⟩ := Success.of_bind made
  obtain rfl := (way_of_walk (of_placeFor placed).2).1
  split at made
  · cases made
  · next notFolder =>
      cases made
      refine ⟨rfl, fun other apart => Node.sameFile_put bytes ?_ apart⟩
      rintro ⟨entries, found⟩
      exact notFolder _ found

end ChangesOnlyAt

end Disk

namespace Run

open Disk

variable {log : Path} {run : Run} {change : Change}

theorem changesOnlyAt_attempt (trouble : Trouble) (run : Run)
    (keeps : ∀ disk after, disk.apply change = .ok after → ChangesOnlyAt log disk after) :
    ChangesOnlyAt log run.disk (run.attempt trouble change).1.disk := by
  rcases attempted : run.attempt trouble change with ⟨next, _ | fault⟩
  · exact keeps _ _ (of_attempt attempted).1
  · rw [(of_attempt_fault attempted).1]
    exact .refl _ _

theorem changesOnlyAt_attemptAll (trouble : Trouble) {changes : List Change}
    (keep : ∀ change ∈ changes, ∀ disk after, disk.apply change = .ok after →
      ChangesOnlyAt log disk after) :
    ChangesOnlyAt log run.disk (run.attemptAll trouble changes).1.disk := by
  induction changes generalizing run with
  | nil => exact .refl _ _
  | cons change rest ih =>
      have first := changesOnlyAt_attempt trouble run (keep change List.mem_cons_self)
      rw [attemptAll]
      rcases attempted : run.attempt trouble change with ⟨next, _ | fault⟩ <;>
        rw [attempted] at first
      · exact first.trans (ih fun other member => keep other (List.mem_cons_of_mem _ member))
      · exact first

theorem changesOnlyAt_ensureFolder (trouble : Trouble) (log path : Path) (run : Run) :
    ChangesOnlyAt log run.disk (run.ensureFolder trouble path).1.disk := by
  refine ensureParts_keeps (fun later => ChangesOnlyAt log run.disk later.disk) ?_ (.refl _ _)
  intro later beginning _ kept
  exact kept.trans (changesOnlyAt_attempt trouble later fun _ _ made => .of_createFolder made)

theorem changesOnlyAt_writing (trouble : Trouble) (log : Path) (text : Text) (run : Run) :
    ChangesOnlyAt log run.disk (run.attemptAll trouble (writing log text)).1.disk := by
  refine changesOnlyAt_attemptAll trouble fun change member disk after made => ?_
  simp only [writing, List.mem_cons, List.not_mem_nil, or_false] at member
  rcases member with rfl | rfl
  · exact .of_putFile made
  · change disk.fillFile log text = .ok after at made
    unfold fillFile at made
    split at made
    · exact .of_putFile made
    · cases made

end Run

namespace Program

/-- The log of a crash. -/
def log (surroundings : Surroundings) : Path :=
  (DataFolder.logs surroundings.system surroundings.environment).child (logName surroundings.now)

theorem changesOnlyAt_ensureLogs (system : Text) (environment : List (Text × Text)) (log : Path)
    (run : Run) :
    Disk.ChangesOnlyAt log run.disk (DataFolder.ensureLogs system environment run).1.disk := by
  have folder := Run.changesOnlyAt_ensureFolder .never log (DataFolder.path system environment) run
  unfold DataFolder.ensureLogs
  rcases made : run.ensureFolder .never (DataFolder.path system environment) with
    ⟨next, _ | fault⟩ <;> rw [made] at folder
  · exact folder.trans (Run.changesOnlyAt_ensureFolder ..)
  · exact folder

theorem exitCode_crash (surroundings : Surroundings) (session : Session) :
    (crash surroundings session).exitCode = 1 := by
  unfold crash
  split
  · rfl
  · dsimp only
    split <;> rfl

/-- A crash changes no file but its log. -/
theorem changesOnlyAt_crash (surroundings : Surroundings) (session : Session) :
    Disk.ChangesOnlyAt (log surroundings) session.disk
      (crash surroundings session).session.disk := by
  have folders := changesOnlyAt_ensureLogs surroundings.system surroundings.environment
    (log surroundings) session.run
  unfold crash
  split
  · next run fault ensured =>
      rw [ensured] at folders
      exact folders
  · next run ensured =>
      rw [ensured] at folders
      have written :=
        folders.trans (Run.changesOnlyAt_writing .never (log surroundings) logText run)
      unfold log at written
      dsimp only
      split
      · next last fault attempted =>
          rw [attempted] at written
          exact written
      · next last attempted =>
          rw [attempted] at written
          exact written

end Program

end ApiForge
