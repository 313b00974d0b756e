import ApiForge.Proofs.Publishing.Scene

/-!
# States of a target

What the target may be at any moment while a client is published: what it was,
the complete new set, or absent with what it was in the backup's place. Folders
that the root needs count as nothing new.
-/

namespace ApiForge.Publication

/-- The entries of a folder after files with these texts have been written into it, if all the texts
have bytes. -/
def written (files : List (Text × Text)) (known : Folder) : Except Utf8.Unencodable Folder :=
  files.foldlM (fun known (name, text) =>
    (Utf8.encode text).map fun bytes => Keyed.insert name (.file bytes) known) known

theorem written_append (first second : List (Text × Text)) (known : Folder) :
    written (first ++ second) known = (written first known).bind (written second) :=
  List.foldlM_append

theorem written_singleton (name text : Text) (known : Folder) :
    written [(name, text)] known =
      (Utf8.encode text).map fun bytes => Keyed.insert name (.file bytes) known := by
  simp only [written, List.foldlM_cons, List.foldlM_nil]
  cases Utf8.encode text <;> rfl

/-- Writing a file leaves nothing of what it held. -/
theorem written_insert (name text : Text) (node : Node) (known : Folder) :
    written [(name, text)] (Keyed.insert name node known) = written [(name, text)] known := by
  rw [written_singleton, written_singleton]
  simp only [Keyed.insert_insert]

/-- The files of a client and its manifest. -/
def completeSet (files : List (Text × Text)) (manifest : Manifest) :
    Except Utf8.Unencodable Folder :=
  written (files ++ [(manifestFile, manifest.stored)]) []

/-- The place of the root as seen from a disk. -/
def home (publication : Publication) (disk : Disk) : List Text :=
  Path.endOf (disk.base publication.root) publication.root.parts

/-- The places of the root and of the folders that lead to it. -/
def rootPlaces (publication : Publication) (disk : Disk) : List (List Text) :=
  Path.way (disk.base publication.root) publication.root.parts

/-- The states of the target on a disk, of which `start` is the one before anything was changed. -/
inductive TargetState (publication : Publication) (files : List (Text × Text)) (manifest : Manifest)
    (start disk : Disk) : Prop where
  | untouched
      (kept : Node.Keeps (publication.rootPlaces start)
        start.top (Spot.target.place publication (publication.home start))
        disk.top (Spot.target.place publication (publication.home start)))
  | complete (set : Folder) (whole : completeSet files manifest = .ok set)
      (holds : disk.top.get? (Spot.target.place publication (publication.home start)) =
        some (.folder set))
  | aside
      (absent : disk.top.get? (Spot.target.place publication (publication.home start)) = none)
      (present : (disk.top.get?
        (Spot.backup.place publication (publication.home start))).isSome)
      (kept : Node.Keeps (publication.rootPlaces start)
        start.top (Spot.target.place publication (publication.home start))
        disk.top (Spot.backup.place publication (publication.home start)))

/-- Everything is as it was before anything was changed, but for the root and the folders that lead
to it. -/
def IsUndone (publication : Publication) (start disk : Disk) : Prop :=
  Node.Keeps (publication.rootPlaces start) start.top [] disk.top []

/-- The disk on which publishing started and the one on which the staging folder was made. -/
structure Setting (publication : Publication) (start ground : Disk) (room : List Text) : Prop
    extends Ground publication ground room where
  home : publication.home start = room
  base : ground.base publication.root = start.base publication.root
  kept : IsUndone publication start ground

namespace Setting

variable {publication : Publication} {files : List (Text × Text)} {manifest : Manifest}
  {start ground disk : Disk} {room : List Text} {held : Spot → Option Node}

/-- The target is untouched while it holds what it held on the ground. -/
theorem targetState_of_target (setting : Setting publication start ground room)
    (holds : Holds publication ground.top room held disk.top)
    (same : held .target = former publication ground room) :
    TargetState publication files manifest start disk := by
  refine .untouched ?_
  rw [setting.home]
  exact (Node.Keeps.part setting.kept _).of_get?_eq ((holds.inside .target).trans same)

theorem targetState_of_complete (setting : Setting publication start ground room)
    (holds : Holds publication ground.top room held disk.top) {set : Folder}
    (whole : completeSet files manifest = .ok set) (same : held .target = some (.folder set)) :
    TargetState publication files manifest start disk := by
  refine .complete set whole ?_
  rw [setting.home]
  exact (holds.inside .target).trans same

theorem targetState_of_backup (setting : Setting publication start ground room)
    (holds : Holds publication ground.top room held disk.top) {node : Node}
    (was : former publication ground room = some node)
    (absent : held .target = none) (same : held .backup = some node) :
    TargetState publication files manifest start disk := by
  have here := (holds.inside .backup).trans same
  refine .aside ?_ ?_ ?_
  all_goals rw [setting.home]
  · exact (holds.inside .target).trans absent
  · rw [here]
    rfl
  · exact (Node.Keeps.part setting.kept _).of_get?_eq (here.trans was.symm)

/-- Nothing is different from the ground once every spot holds what it held there. -/
theorem isUndone_of_holds (setting : Setting publication start ground room)
    (holds : Holds publication ground.top room
      (hold none (former publication ground room) none) disk.top) :
    IsUndone publication start disk := by
  refine Node.Keeps.of_entryAt_eq setting.kept fun names => ?_
  by_cases outside : ∀ spot : Spot, ¬ spot.place publication room <+: names
  · exact holds.outside names outside
  · obtain ⟨spot, inside⟩ := not_forall_not.mp outside
    obtain ⟨rest, rfl⟩ := inside
    rw [Node.entryAt_append, Node.entryAt_append, holds.inside, setting.holds.inside]

/-- A staging folder that is left behind is different from the start. -/
theorem not_isUndone_of_staged (setting : Setting publication start ground room)
    (holds : Holds publication ground.top room held disk.top) {entries : Folder}
    (staged : held .staging = some (.folder entries)) :
    ¬ IsUndone publication start disk := by
  have before : ground.top.entryAt (Spot.staging.place publication room) = none :=
    Node.entryAt_eq_none_iff.mpr setting.stagingFree
  have now : disk.top.entryAt (Spot.staging.place publication room) = some .folder :=
    Node.hasFolder_iff.mp ⟨entries, (holds.inside .staging).trans staged⟩
  intro kept
  rcases kept (Spot.staging.place publication room) with same | ⟨_, _, among⟩
  · -- what is at the staging folder's place cannot have been there at the start
    rw [List.nil_append, now] at same
    rcases setting.kept (Spot.staging.place publication room) with earlier | ⟨_, later, _⟩
    · rw [List.nil_append, before, ← same] at earlier
      cases earlier
    · rw [List.nil_append, before] at later
      cases later
  · -- nor is it on the way of the root, where everything was a folder before
    rw [List.nil_append, rootPlaces, ← setting.base] at among
    have isFolder := Node.hasFolder_iff.mp (setting.hasFolder_of_mem_way _ among)
    rw [before] at isFolder
    cases isFolder

end Setting

end ApiForge.Publication
