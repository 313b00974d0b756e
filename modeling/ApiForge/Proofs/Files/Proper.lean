import ApiForge.Proofs.Files.Trace

/-!
# Proper trees

In a proper tree every folder holds each name once. Every change of a disk keeps
its tree proper, so a folder's entries can be listed or looked up alike.
-/

namespace ApiForge

namespace Keyed

variable {α : Type} {name : Text} {value : α} {known : List (Text × α)}

theorem mem_of_find? (found : find? name known = some value) : (name, value) ∈ known := by
  obtain ⟨entry, first, rfl⟩ := Option.map_eq_some_iff.mp found
  have same : entry.1 = name := by simpa using List.find?_some first
  exact same ▸ List.mem_of_find?_eq_some first

/-- In a list with distinct names every pair can be looked up. -/
theorem find?_eq_some_iff (distinct : (known.map (·.1)).Nodup) :
    find? name known = some value ↔ (name, value) ∈ known := by
  refine ⟨mem_of_find?, fun member => ?_⟩
  induction known with
  | nil => cases member
  | cons entry known ih =>
      rw [List.map_cons, List.nodup_cons] at distinct
      rcases List.mem_cons.mp member with rfl | inRest
      · simp [find?]
      · have apart : entry.1 ≠ name := by
          rintro rfl
          exact distinct.1 (List.mem_map.mpr ⟨_, inRest, rfl⟩)
        simpa [find?, apart] using ih distinct.2 inRest

end Keyed

namespace Node

/-- Every folder of the tree holds each name once. -/
inductive IsProper : Node → Prop where
  | file (bytes : List UInt8) : IsProper (.file bytes)
  | folder {entries : Folder} (distinct : (entries.map (·.1)).Nodup)
      (proper : ∀ entry ∈ entries, IsProper entry.2) : IsProper (.folder entries)

namespace IsProper

variable {top node : Node} {entries : Folder} {names : List Text}

theorem distinct (proper : IsProper (.folder entries)) : (entries.map (·.1)).Nodup := by
  cases proper with
  | folder distinct _ => exact distinct

theorem of_mem {entry : Text × Node} (proper : IsProper (.folder entries))
    (member : entry ∈ entries) : entry.2.IsProper := by
  cases proper with
  | folder _ inner => exact inner entry member

theorem of_find? {name : Text} (proper : IsProper (.folder entries))
    (found : Keyed.find? name entries = some node) : node.IsProper :=
  proper.of_mem (Keyed.mem_of_find? found)

theorem insert (proper : IsProper (.folder entries)) (name : Text) (inner : node.IsProper) :
    IsProper (.folder (Keyed.insert name node entries)) := by
  refine .folder (Keyed.insert_nodup proper.distinct) fun entry member => ?_
  rcases Keyed.mem_of_mem_insert member with rfl | old
  · exact inner
  · exact proper.of_mem old

theorem erase (proper : IsProper (.folder entries)) (name : Text) :
    IsProper (.folder (Keyed.erase name entries)) := by
  refine .folder ?_ fun entry member => proper.of_mem (List.mem_of_mem_filter member)
  exact proper.distinct.sublist (List.filter_sublist.map _)

/-- What is in a proper tree is proper. -/
theorem get? (proper : top.IsProper) (found : top.get? names = some node) : node.IsProper := by
  induction names generalizing top with
  | nil =>
      cases found
      exact proper
  | cons name rest ih =>
      cases top with
      | file bytes => cases found
      | folder entries =>
          obtain ⟨inner, here, below⟩ := Option.bind_eq_some_iff.mp found
          exact ih (proper.of_find? here) below

/-- The entries of a folder are what can be found in it. -/
theorem mem_iff_get? (proper : top.IsProper) (found : top.get? names = some (.folder entries))
    {name : Text} : (name, node) ∈ entries ↔ top.get? (names ++ [name]) = some node := by
  rw [Node.get?_append, found, Option.bind_some, Node.get?_singleton]
  exact (Keyed.find?_eq_some_iff (proper.get? found).distinct).symm

theorem changeAt {change : Folder → Folder} (proper : top.IsProper)
    (keeps : ∀ entries, IsProper (.folder entries) → IsProper (.folder (change entries))) :
    (top.changeAt change names).IsProper := by
  induction names generalizing top with
  | nil =>
      cases top with
      | file bytes => exact proper
      | folder entries => exact keeps entries proper
  | cons name rest ih =>
      cases top with
      | file bytes => exact proper
      | folder entries =>
          cases here : Keyed.find? name entries with
          | none =>
              simp only [Node.changeAt, here]
              exact proper
          | some inner =>
              simp only [Node.changeAt, here]
              exact proper.insert name (ih (proper.of_find? here))

theorem put (proper : top.IsProper) (names : List Text) (inner : node.IsProper) :
    (top.put names node).IsProper := by
  unfold Node.put
  split
  · exact proper.changeAt fun entries folder => folder.insert _ inner
  · exact inner

theorem remove (proper : top.IsProper) (names : List Text) : (top.remove names).IsProper := by
  unfold Node.remove
  split
  · exact proper.changeAt fun entries folder => folder.erase _
  · exact proper

end IsProper

end Node

namespace Disk

variable {disk after : Disk}

/-- A change keeps the tree proper. -/
theorem isProper_of_apply (proper : disk.top.IsProper) {change : Change}
    (made : disk.apply change = .ok after) : after.top.IsProper := by
  have empty : Node.IsProper (.folder []) := .folder List.nodup_nil fun _ none => nomatch none
  have putFile : ∀ {path bytes}, disk.putFile path bytes = .ok after → after.top.IsProper := by
    intro path bytes made
    obtain ⟨names, _, made⟩ := Success.of_bind made
    split at made
    · cases made
    · cases made
      exact proper.put names (.file bytes)
  cases change with
  | createFolder path =>
      obtain ⟨names, _, _, _, rfl⟩ := of_createFolder made
      exact proper.put names empty
  | emptyFile path => exact putFile made
  | fillFile path text =>
      change disk.fillFile path text = _ at made
      unfold fillFile at made
      split at made
      · exact putFile made
      · cases made
  | move source target =>
      change disk.move source target = _ at made
      unfold move at made
      dsimp only at made
      split at made
      · cases made
      · cases made
      · split at made
        · cases made
        · next found =>
            split at made
            · cases made
            · cases made
              exact (proper.remove _).put _ (proper.get? found)
  | removeFolder path =>
      obtain ⟨names, _, made⟩ := Success.of_bind made
      split at made
      · cases made
        exact proper.remove names
      · cases made
      · cases made

/-- Changes made one by one keep the tree proper. -/
theorem isProper_of_replay (proper : disk.top.IsProper) {changes : List Change}
    (replayed : disk.replay changes = .ok after) : after.top.IsProper :=
  Success.foldlM_keeps (fun passed : Disk => passed.top.IsProper) replayed proper
    fun _ _ _ kept made => isProper_of_apply kept made

end Disk

end ApiForge
