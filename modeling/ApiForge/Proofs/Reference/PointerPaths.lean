import ApiForge.Proofs.Decimal.Numerals
import ApiForge.Proofs.Reference.Places
import ApiForge.Proofs.Text.Pieces

/-!
# Paths and pointers

A path goes into a value by keys of mappings and positions of lists. It is
spelled as a pointer: every key with its two escapes, every position in decimal
digits, a slash before each of them. Such a pointer is cut into the same steps
again, whatever letters the keys hold, and leads where the path leads.
-/

namespace ApiForge.Reference

/-! ## Segments -/

/-- The pointer with these segments. -/
def pointerOf (segments : List Text) : Text :=
  '#' :: '/' :: ['/'].intercalate segments

/-- Every segment but the last has a slash after it. -/
theorem pointerOf_concat (segments : List Text) (last : Text) :
    pointerOf (segments ++ [last]) = '#' :: '/' :: (segments.flatMap (· ++ ['/']) ++ last) := by
  have joined : ['/'].intercalate (segments ++ [last]) = segments.flatMap (· ++ ['/']) ++ last := by
    induction segments with
    | nil => simp
    | cons first rest ih =>
        rw [List.cons_append, List.intercalate_cons_of_ne_nil (by simp), ih]
        simp
  rw [pointerOf, joined]

/-- A reference is internal if and only if it is the pointer with some segments, and then its steps
are these segments without their escapes. -/
theorem segments?_eq_some_iff {reference : Text} {steps : List Text} :
    segments? reference = some steps ↔ ∃ segments, segments ≠ [] ∧
      (∀ segment ∈ segments, '/' ∉ segment) ∧ reference = pointerOf segments ∧
      steps = segments.map unescape := by
  constructor
  · intro internal
    unfold segments? at internal
    split at internal
    · next rest =>
        refine ⟨List.splitOn '/' rest, List.splitOn_ne_nil _ _,
          fun _ => Text.not_mem_of_mem_splitOn, ?_, (Option.some.inj internal).symm⟩
        rw [pointerOf, List.intercalate_splitOn]
    · cases internal
  · rintro ⟨segments, filled, unmet, rfl, rfl⟩
    rw [pointerOf, segments?, List.splitOn_intercalate '/' unmet filled]

theorem target_eq_ok_iff_walk {root value : Value} {reference : Text} :
    target root reference = .ok value ↔
      ∃ steps, segments? reference = some steps ∧ walk root steps = .ok value := by
  unfold target
  cases internal : segments? reference with
  | none => simp
  | some steps => cases walked : walk root steps <;> simp [walked]

theorem unescape_of_not_mem {text : Text} (plain : '~' ∉ text) : unescape text = text := by
  induction text with
  | nil => rfl
  | cons letter rest ih =>
      rw [List.mem_cons, not_or] at plain
      obtain ⟨other, plain⟩ := plain
      rw [unescape.eq_3 _ _ (fun _ same => absurd same.symm other)
        (fun _ same => absurd same.symm other), ih plain]

theorem slash_not_mem_escape (key : Text) : '/' ∉ escape key := by
  intro member
  obtain ⟨letter, _, inside⟩ := List.mem_flatMap.mp member
  split at inside
  · revert inside
    decide
  · split at inside
    · revert inside
      decide
    · next other =>
        exact other (List.mem_singleton.mp inside).symm

theorem not_mem_ofNat {mark : Char} (noDigit : mark.isDigit = false) (number : Nat) :
    mark ∉ Text.ofNat number := by
  intro member
  have isDigit := Json.isDigit_of_mem_ofNat member
  rw [noDigit] at isDigit
  cases isDigit

/-! ## Paths -/

inductive PathStep where
  | key (name : Text)
  | position (index : Nat)
  deriving DecidableEq, Repr

namespace PathStep

/-- The value that the step goes to: that of a key of a mapping, or the item at a position of a
list. -/
def into? : PathStep → Value → Option Value
  | .key name, .map entries => Entries.field? name entries
  | .position index, .list items => items[index]?
  | _, _ => none

def segment : PathStep → Text
  | .key name => escape name
  | .position index => Text.ofNat index

/-- The text that the segment stands for. -/
def spelling : PathStep → Text
  | .key name => name
  | .position index => Text.ofNat index

theorem unescape_segment (pathStep : PathStep) : unescape pathStep.segment = pathStep.spelling := by
  cases pathStep with
  | key name => exact unescape_escape name
  | position index => exact unescape_of_not_mem (not_mem_ofNat (by decide) index)

theorem slash_not_mem_segment (pathStep : PathStep) : '/' ∉ pathStep.segment := by
  cases pathStep with
  | key name => exact slash_not_mem_escape name
  | position index => exact not_mem_ofNat (by decide) index

theorem exists_child? {pathStep : PathStep} {current next : Value}
    (leads : pathStep.into? current = some next) :
    ∃ position, current.child? position = some next := by
  cases pathStep with
  | key name =>
      cases current with
      | map entries => exact Value.exists_child?_of_mem_entries (Entries.mem_of_field? leads)
      | _ => cases leads
  | position index =>
      cases current with
      | list items => exact ⟨index, leads⟩
      | _ => cases leads

end PathStep

/-- The value that a path leads to. -/
def follow? : List PathStep → Value → Option Value
  | [], value => some value
  | pathStep :: rest, value => (pathStep.into? value).bind (follow? rest)

/-- The pointer that spells a path. -/
def pointerTo (path : List PathStep) : Text :=
  pointerOf (path.map PathStep.segment)

/-- No list of the value has more items than numerals can count. No list that is held in a memory
has. -/
def HasCountedLists (value : Value) : Prop :=
  ∀ place items, value.inner? place = some (.list items) →
    items.length ≤ 10 ^ Numeral.greatestLength

theorem HasCountedLists.child {value inner : Value} {position : Nat}
    (counted : HasCountedLists value) (child : value.child? position = some inner) :
    HasCountedLists inner :=
  fun place items there => counted (position :: place) items (by
    rw [Value.inner?, child]
    exact there)

@[simp] theorem hasCountedLists_scalar (value : Scalar) : HasCountedLists (.scalar value) := by
  intro place items there
  cases place <;> simp [Value.inner?, Value.child?] at there

@[simp] theorem hasCountedLists_map (entries : Entries) :
    HasCountedLists (.map entries) ↔ ∀ entry ∈ entries, HasCountedLists entry.2 := by
  constructor
  · intro counted entry member
    obtain ⟨position, child⟩ := Value.exists_child?_of_mem_entries member
    exact counted.child child
  · intro inside place items there
    cases place with
    | nil => cases there
    | cons position rest =>
        obtain ⟨next, child, there⟩ := Option.bind_eq_some_iff.mp there
        obtain ⟨key, member⟩ := Value.mem_entries_of_child? child
        exact inside _ member rest items there

@[simp] theorem hasCountedLists_list (items : List Value) :
    HasCountedLists (.list items) ↔
      items.length ≤ 10 ^ Numeral.greatestLength ∧ ∀ item ∈ items, HasCountedLists item := by
  constructor
  · intro counted
    refine ⟨counted [] items rfl, fun item member => ?_⟩
    obtain ⟨position, child⟩ := List.mem_iff_getElem?.mp member
    exact counted.child child
  · rintro ⟨most, inside⟩ place others there
    cases place with
    | nil =>
        cases there
        exact most
    | cons position rest =>
        obtain ⟨next, child, there⟩ := Option.bind_eq_some_iff.mp there
        exact inside next (List.mem_of_getElem? child) rest others there

theorem le_of_le_ten {length : Nat} (few : length ≤ 10) : length ≤ 10 ^ Numeral.greatestLength :=
  Nat.le_trans few (Nat.le_pow (by decide))

/-- The digits of a position in a list are read as this position. -/
theorem integer?_of_position {items : List Value} {index : Nat} {next : Value}
    (counted : HasCountedLists (.list items)) (there : items[index]? = some next) :
    Numeral.integer? (Text.ofNat index) = some (index : Int) := by
  have below := (List.getElem?_eq_some_iff.mp there).1
  have most := counted [] items rfl
  have short : (Text.ofNat index).length ≤ Numeral.greatestLength := by
    rw [Text.ofNat, Nat.length_toDigits_le_iff (by decide) (by decide)]
    omega
  rw [Numeral.integer?_ofNat, if_neg (Nat.not_lt.mpr short)]

theorem step_spelling {current next : Value} (counted : HasCountedLists current)
    {pathStep : PathStep} (leads : pathStep.into? current = some next) :
    step current pathStep.spelling = .ok next := by
  cases pathStep with
  | key name =>
      cases current with
      | map entries =>
          have found : Entries.field? name entries = some next := leads
          simp only [PathStep.spelling, step, found]
      | _ => cases leads
  | position index =>
      cases current with
      | list items =>
          have there : items[index]? = some next := leads
          have item : itemAt? items (index : Int) = some next := there
          simp only [PathStep.spelling, step, integer?_of_position counted there, Option.bind_some,
            item]
      | _ => cases leads

/-- The steps that a path is spelled with lead where the path leads. -/
theorem walk_spellings {current value : Value} (counted : HasCountedLists current)
    {path : List PathStep} (leads : follow? path current = some value) :
    walk current (path.map PathStep.spelling) = .ok value := by
  induction path generalizing current with
  | nil =>
      cases leads
      rfl
  | cons pathStep rest ih =>
      obtain ⟨next, into, leads⟩ := Option.bind_eq_some_iff.mp leads
      obtain ⟨position, child⟩ := pathStep.exists_child? into
      rw [List.map_cons, walk, step_spelling counted into]
      exact ih (counted.child child) leads

/-- The pointer that spells a path names the value that the path leads to. -/
theorem target_pointerTo {root value : Value} (counted : HasCountedLists root)
    {path : List PathStep} (filled : path ≠ []) (leads : follow? path root = some value) :
    target root (pointerTo path) = .ok value := by
  have unmet : ∀ segment ∈ path.map PathStep.segment, '/' ∉ segment := by
    intro segment member
    obtain ⟨pathStep, _, rfl⟩ := List.mem_map.mp member
    exact pathStep.slash_not_mem_segment
  have spellings : path.map PathStep.spelling = (path.map PathStep.segment).map unescape := by
    rw [List.map_map]
    exact List.map_congr_left fun pathStep _ => pathStep.unescape_segment.symm
  refine target_eq_ok_iff_walk.mpr ⟨path.map PathStep.spelling, ?_, walk_spellings counted leads⟩
  exact segments?_eq_some_iff.mpr ⟨_, by simpa using filled, unmet, rfl, spellings⟩

/-- A document with an empty key and keys that hold slashes, tildes and digits. -/
def keysDocument : Value :=
  .map [
    (.str "", .list [.str "first", .map [(.str "~01/0", .list [.str "deep"])]]),
    (.str "~1", .str "tilde")]

def deepPath : List PathStep :=
  [.key "", .position 1, .key "~01/0", .position 0]

/-- A path through such keys is spelled `#//1/~001~10/0`. -/
theorem target_of_keysDocument :
    HasCountedLists keysDocument ∧ deepPath ≠ [] ∧
      follow? deepPath keysDocument = some (.str "deep") ∧
      pointerTo deepPath = "#//1/~001~10/0".toList ∧
      target keysDocument (pointerTo deepPath) = .ok (.str "deep") := by
  have counted : HasCountedLists keysDocument := by simp [keysDocument, le_of_le_ten]
  have filled : deepPath ≠ [] := by decide
  have leads : follow? deepPath keysDocument = some (.str "deep") := rfl
  exact ⟨counted, filled, leads, by decide +kernel, target_pointerTo counted filled leads⟩

end ApiForge.Reference
