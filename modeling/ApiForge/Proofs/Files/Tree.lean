import ApiForge.Files.Node
import Mathlib.Data.List.Basic

/-!
# Places in a tree

What a change of one place does to the others. A place below the changed one is
changed with it, a place above it stays a folder, and all other places hold what
they held.
-/

namespace ApiForge.Node

/-- What can be seen at a place without looking further down. -/
inductive Entry where
  | file (bytes : List UInt8)
  | folder
  deriving DecidableEq, Repr

def entry : Node → Entry
  | .file bytes => .file bytes
  | .folder _ => .folder

/-- The entry at a place. -/
def entryAt (top : Node) (names : List Text) : Option Entry :=
  (top.get? names).map entry

/-- The place holds a folder. -/
def HasFolder (top : Node) (names : List Text) : Prop :=
  ∃ entries, top.get? names = some (.folder entries)

theorem hasFolder_iff {top : Node} {names : List Text} :
    top.HasFolder names ↔ top.entryAt names = some .folder := by
  constructor
  · rintro ⟨entries, found⟩
    simp [entryAt, found, entry]
  · intro seen
    obtain ⟨node, found, kind⟩ := Option.map_eq_some_iff.mp seen
    cases node with
    | file bytes => cases kind
    | folder entries => exact ⟨entries, found⟩

theorem entryAt_eq_none_iff {top : Node} {names : List Text} :
    top.entryAt names = none ↔ top.get? names = none :=
  Option.map_eq_none_iff

theorem get?_eq_file_iff {top : Node} {names : List Text} {bytes : List UInt8} :
    top.get? names = some (.file bytes) ↔ top.entryAt names = some (.file bytes) := by
  unfold entryAt
  rcases top.get? names with _ | ⟨other⟩ | ⟨entries⟩ <;> simp [entry]

theorem get?_singleton (entries : Folder) (name : Text) :
    (Node.folder entries).get? [name] = Keyed.find? name entries := by
  rw [get?]
  cases Keyed.find? name entries <;> rfl

theorem get?_append (top : Node) (names rest : List Text) :
    top.get? (names ++ rest) = (top.get? names).bind (get? rest) := by
  induction names generalizing top with
  | nil => rfl
  | cons name others ih =>
      cases top with
      | file bytes => rfl
      | folder entries =>
          change (Keyed.find? name entries).bind (get? (others ++ rest)) =
            ((Keyed.find? name entries).bind (get? others)).bind (get? rest)
          rw [Option.bind_assoc]
          exact Option.bind_congr fun node _ => ih node

theorem entryAt_append (top : Node) (names rest : List Text) :
    top.entryAt (names ++ rest) = (top.get? names).bind fun node => node.entryAt rest := by
  unfold entryAt
  rw [get?_append, Option.map_bind]
  rfl

/-- Nothing is below a place that holds nothing. -/
theorem get?_below {top : Node} {names below : List Text} (above : names <+: below)
    (nothing : top.get? names = none) : top.get? below = none := by
  obtain ⟨rest, rfl⟩ := above
  rw [get?_append, nothing]
  rfl

/-- What is in something is in a folder. -/
theorem hasFolder_above {top : Node} {names : List Text} {name : Text}
    (inside : top.HasFolder (names ++ [name])) : top.HasFolder names := by
  obtain ⟨entries, found⟩ := inside
  rw [get?_append] at found
  rcases above : top.get? names with _ | ⟨bytes⟩ | ⟨others⟩
  · rw [above] at found
    cases found
  · rw [above] at found
    cases found
  · exact ⟨others, above⟩

/-- A folder is not below what it holds. -/
theorem not_concat_inside (room : List Text) (name : Text) : ¬ room ++ [name] <+: room := by
  intro long
  have lengths := long.length_le
  rw [List.length_append, List.length_singleton] at lengths
  omega

/-! ## Changes of one name in a folder -/

/-- The change leaves every other name of the folder alone. -/
def ChangesOnly (name : Text) (change : Folder → Folder) : Prop :=
  ∀ other, other ≠ name → ∀ entries, Keyed.find? other (change entries) = Keyed.find? other entries

theorem changesOnly_insert (name : Text) (node : Node) :
    ChangesOnly name (Keyed.insert name node) := by
  intro other apart entries
  rw [Keyed.find?_insert, if_neg apart]

theorem changesOnly_erase (name : Text) :
    ChangesOnly name (Keyed.erase name) := by
  intro other apart entries
  rw [Keyed.find?_erase, if_neg apart]

/-- A place that is not below the changed name holds what it held, or it is a folder above the name
and remains one. -/
theorem get?_changeAt_outside {change : Folder → Folder} {name : Text}
    (only : ChangesOnly name change) {room other : List Text} (top : Node)
    (outside : ¬ room ++ [name] <+: other) :
    get? other (changeAt change room top) = get? other top ∨
      other <+: room ∧ top.HasFolder other ∧ (changeAt change room top).HasFolder other := by
  induction room generalizing top other with
  | nil =>
      cases top with
      | file bytes => exact .inl rfl
      | folder entries =>
          cases other with
          | nil => exact .inr ⟨List.nil_prefix, ⟨entries, rfl⟩, ⟨change entries, rfl⟩⟩
          | cons first rest =>
              have apart : first ≠ name := by
                rintro rfl
                exact outside (List.prefix_append [first] rest)
              left
              simp only [changeAt, get?]
              rw [only first apart]
  | cons step room ih =>
      cases top with
      | file bytes => exact .inl rfl
      | folder entries =>
          cases here : Keyed.find? step entries with
          | none =>
              left
              simp only [changeAt, here]
          | some node =>
              cases other with
              | nil =>
                  refine .inr ⟨List.nil_prefix, ⟨entries, rfl⟩, ?_⟩
                  simp only [changeAt, here]
                  exact ⟨_, rfl⟩
              | cons first rest =>
                  by_cases same : first = step
                  · subst same
                    have below : ¬ room ++ [name] <+: rest := fun inside =>
                      outside (List.cons_prefix_cons.mpr ⟨rfl, inside⟩)
                    rcases ih node below with equal | ⟨above, before, after⟩
                    · left
                      simp only [changeAt, here, get?, Keyed.find?_insert, if_true,
                        Option.bind_some]
                      exact equal
                    · right
                      refine ⟨List.cons_prefix_cons.mpr ⟨rfl, above⟩, ?_, ?_⟩
                      · obtain ⟨inner, found⟩ := before
                        exact ⟨inner, by simp only [get?, here, Option.bind_some, found]⟩
                      · obtain ⟨inner, found⟩ := after
                        exact ⟨inner, by
                          simp only [changeAt, here, get?, Keyed.find?_insert, if_true,
                            Option.bind_some, found]⟩
                  · left
                    simp only [changeAt, here, get?, Keyed.find?_insert, if_neg same]

theorem put_append (top : Node) (room : List Text) (name : Text) (node : Node) :
    top.put (room ++ [name]) node = top.changeAt (Keyed.insert name node) room := by
  unfold put
  rw [List.getLast?_concat, List.dropLast_concat]

theorem remove_append (top : Node) (room : List Text) (name : Text) :
    top.remove (room ++ [name]) = top.changeAt (Keyed.erase name) room := by
  unfold remove
  rw [List.getLast?_concat, List.dropLast_concat]

/-- Nothing changes where there is no folder to change. -/
theorem changeAt_of_not_hasFolder (change : Folder → Folder) {room : List Text} {top : Node}
    (noFolder : ¬ top.HasFolder room) : top.changeAt change room = top := by
  induction room generalizing top with
  | nil =>
      cases top with
      | file bytes => rfl
      | folder entries => exact absurd ⟨entries, rfl⟩ noFolder
  | cons step rest ih =>
      cases top with
      | file bytes => rfl
      | folder entries =>
          cases here : Keyed.find? step entries with
          | none => simp only [changeAt, here]
          | some node =>
              have inner : ¬ node.HasFolder rest := by
                rintro ⟨found, leads⟩
                exact noFolder ⟨found, by simp only [get?, here, Option.bind_some, leads]⟩
              simp only [changeAt, here, ih inner, Keyed.insert_of_find? here]

/-! ## The changed place -/

/-- What was put in a place in a folder is found there. -/
theorem get?_put {top : Node} {room : List Text} (isFolder : top.HasFolder room) (name : Text)
    (node : Node) : (top.put (room ++ [name]) node).get? (room ++ [name]) = some node := by
  obtain ⟨entries, found⟩ := isFolder
  rw [put_append, get?_append, get?_changeAt _ found]
  simp [get?, Keyed.find?_insert]

/-- Nothing is found in a place that was cleared. -/
theorem get?_remove {top : Node} {room : List Text} (isFolder : top.HasFolder room) (name : Text) :
    (top.remove (room ++ [name])).get? (room ++ [name]) = none := by
  obtain ⟨entries, found⟩ := isFolder
  rw [remove_append, get?_append, get?_changeAt _ found]
  simp [get?, Keyed.find?_erase]

/-- A file put in a folder is found in the folder. -/
theorem get?_put_inside {top : Node} {room : List Text} {entries : Folder}
    (found : top.get? room = some (.folder entries)) (name : Text) (node : Node) :
    (top.put (room ++ [name]) node).get? room = some (.folder (Keyed.insert name node entries)) := by
  rw [put_append]
  exact get?_changeAt _ found

/-! ## The other places -/

/-- The trees differ below one place only. -/
structure ChangedAt (place : List Text) (before after : Node) : Prop where
  entries : ∀ names, ¬ place <+: names → after.entryAt names = before.entryAt names
  nodes : ∀ names, ¬ place <+: names → ¬ names <+: place → after.get? names = before.get? names

theorem changedAt_changeAt {change : Folder → Folder} {name : Text}
    (only : ChangesOnly name change) (room : List Text) (top : Node) :
    ChangedAt (room ++ [name]) top (top.changeAt change room) := by
  constructor
  · intro names outside
    rcases get?_changeAt_outside only top outside with equal | ⟨_, before, after⟩
    · unfold entryAt
      rw [equal]
    · rw [hasFolder_iff.mp before, hasFolder_iff.mp after]
  · intro names outside apart
    rcases get?_changeAt_outside only top outside with equal | ⟨above, _⟩
    · exact equal
    · exact absurd (above.trans (List.prefix_append room [name])) apart

theorem changedAt_put (room : List Text) (name : Text) (top node : Node) :
    ChangedAt (room ++ [name]) top (top.put (room ++ [name]) node) := by
  rw [put_append]
  exact changedAt_changeAt (changesOnly_insert name node) room top

theorem changedAt_remove (room : List Text) (name : Text) (top : Node) :
    ChangedAt (room ++ [name]) top (top.remove (room ++ [name])) := by
  rw [remove_append]
  exact changedAt_changeAt (changesOnly_erase name) room top

/-- A change below a place is one below every place above it. -/
theorem ChangedAt.above {place rest : List Text} {before after : Node}
    (changed : ChangedAt (place ++ rest) before after) : ChangedAt place before after := by
  have wider : ∀ names, ¬ place <+: names → ¬ place ++ rest <+: names := fun names outside inside =>
    outside ((List.prefix_append place rest).trans inside)
  constructor
  · exact fun names outside => changed.entries names (wider names outside)
  · intro names outside apart
    refine changed.nodes names (wider names outside) fun shorter => ?_
    rcases List.prefix_or_prefix_of_prefix shorter (List.prefix_append place rest) with one | other
    · exact apart one
    · exact outside other

/-! ## Trees that keep their entries -/

/-- What the later tree holds at `there` is what the earlier one held at `here`, apart from folders
that have come into being at some of the places. -/
def Keeps (places : List (List Text)) (earlier : Node) (here : List Text) (later : Node)
    (there : List Text) : Prop :=
  ∀ rest, later.entryAt (there ++ rest) = earlier.entryAt (here ++ rest) ∨
    (earlier.entryAt (here ++ rest) = none ∧ later.entryAt (there ++ rest) = some .folder ∧
      here ++ rest ∈ places)

namespace Keeps

variable {places : List (List Text)} {earlier middle later : Node} {here there beyond : List Text}

theorem refl (places : List (List Text)) (top : Node) (here : List Text) :
    Keeps places top here top here :=
  fun _ => .inl rfl

/-- A part of a tree is kept if the whole is. -/
theorem part (kept : Keeps places earlier [] later []) (here : List Text) :
    Keeps places earlier here later here :=
  fun rest => kept (here ++ rest)

/-- The same node in another place is as good. -/
theorem of_get?_eq (kept : Keeps places earlier here middle there)
    (equal : later.get? beyond = middle.get? there) : Keeps places earlier here later beyond := by
  intro rest
  have same : later.entryAt (beyond ++ rest) = middle.entryAt (there ++ rest) := by
    rw [entryAt_append, entryAt_append, equal]
  rw [same]
  exact kept rest

theorem of_entryAt_eq (kept : Keeps places earlier [] middle [])
    (equal : ∀ names, later.entryAt names = middle.entryAt names) :
    Keeps places earlier [] later [] := by
  intro rest
  rw [equal]
  exact kept rest

/-- What is not there has not been there. -/
theorem nothing (kept : Keeps places earlier here later there) {rest : List Text}
    (nothing : later.entryAt (there ++ rest) = none) : earlier.entryAt (here ++ rest) = none := by
  rcases kept rest with same | ⟨before, _, _⟩
  · rw [← same, nothing]
  · exact before

/-- Folders stay. -/
theorem hasFolder (kept : Keeps places earlier here later there) {rest : List Text}
    (isFolder : earlier.HasFolder (here ++ rest)) : later.HasFolder (there ++ rest) := by
  rw [hasFolder_iff] at isFolder ⊢
  rcases kept rest with same | ⟨_, folder, _⟩
  · rw [same, isFolder]
  · exact folder

/-- A folder may come into being at one of the places, if nothing is there. -/
theorem putFolder {names : List Text} (kept : Keeps places earlier [] later [])
    (nothing : later.get? names = none) (among : names ∈ places) :
    Keeps places earlier [] (later.put names (.folder [])) [] := by
  obtain rfl | ⟨room, name, rfl⟩ := List.eq_nil_or_concat' names
  · cases nothing
  by_cases isFolder : later.HasFolder room
  case neg =>
    rw [put_append, changeAt_of_not_hasFolder _ isFolder]
    exact kept
  intro rest
  simp only [List.nil_append]
  by_cases inside : room ++ [name] <+: rest
  · have before : later.entryAt rest = none := entryAt_eq_none_iff.mpr (get?_below inside nothing)
    have earliest : earlier.entryAt rest = none := by
      rcases kept rest with same | ⟨none, _, _⟩
      · simp only [List.nil_append] at same
        rw [← same, before]
      · exact none
    obtain ⟨below, rfl⟩ := inside
    rw [entryAt_append, get?_put isFolder, earliest]
    cases below with
    | nil => exact .inr ⟨rfl, rfl, by rwa [List.append_nil]⟩
    | cons first below => exact .inl rfl
  · rw [(changedAt_put room name later (.folder [])).entries rest inside]
    exact kept rest

end Keeps

end ApiForge.Node
