import ApiForge.Document.Height
import ApiForge.Proofs.Import.SchemaReferences
import ApiForge.Reference.Expand

/-!
# Places of a document

A place is a way into a value, given by the positions of the entries and items
that it enters. The references of a value are those of the mappings at its
places, and a reference that resolves names a value at a place of the document.
-/

namespace ApiForge

/-- The positions on a way into a value, the outermost first. -/
abbrev Place := List Nat

namespace Entries

theorem mem_of_field? {name : Text} {entries : Entries} {value : Value}
    (found : field? name entries = some value) : (.str name, value) ∈ entries := by
  obtain ⟨⟨key, value⟩, first, rfl⟩ := Option.map_eq_some_iff.mp found
  have same : key = .str name :=
    Source.isSameKey_str (by simpa only using List.find?_some first)
  rw [← same]
  exact List.mem_of_find?_eq_some first

theorem exists_field?_of_mem {name : Text} {entries : Entries} {value : Value}
    (member : (.str name, value) ∈ entries) : ∃ found, field? name entries = some found := by
  cases first : List.find? (fun entry => entry.1.isSameKey (.str name)) entries with
  | none =>
      have unlike := List.find?_eq_none.mp first _ member
      exact absurd (by simp [Scalar.isSameKey, Scalar.number?]) unlike
  | some entry => exact ⟨entry.2, by rw [field?, find?, first]; rfl⟩

end Entries

namespace Value

/-- The value of the entry of a mapping, or the item of a list, at a position. -/
def child? (position : Nat) : Value → Option Value
  | .map entries => entries[position]?.map (·.2)
  | .list items => items[position]?
  | _ => none

/-- The value at a place. -/
def inner? : Place → Value → Option Value
  | [], value => some value
  | position :: rest, value => (value.child? position).bind (inner? rest)

theorem inner?_append (outer rest : Place) (value : Value) :
    value.inner? (outer ++ rest) = (value.inner? outer).bind (inner? rest) := by
  induction outer generalizing value with
  | nil => rfl
  | cons position outer ih =>
      simp only [List.cons_append, inner?, Option.bind_assoc]
      exact congrArg _ (funext fun _ => ih _)

theorem inner?_concat (place : Place) (position : Nat) (value : Value) :
    value.inner? (place ++ [position]) = (value.inner? place).bind (child? position) := by
  rw [inner?_append]
  exact congrArg _ (funext fun value => Option.bind_fun_some (value.child? position))

theorem exists_child?_of_mem_entries {entries : Entries} {key : Scalar} {inner : Value}
    (member : (key, inner) ∈ entries) :
    ∃ position, (Value.map entries).child? position = some inner := by
  obtain ⟨position, found⟩ := List.mem_iff_getElem?.mp member
  exact ⟨position, by simp [child?, found]⟩

theorem mem_entries_of_child? {entries : Entries} {position : Nat} {inner : Value}
    (child : (Value.map entries).child? position = some inner) :
    ∃ key, (key, inner) ∈ entries := by
  obtain ⟨⟨key, _⟩, found, rfl⟩ := Option.map_eq_some_iff.mp child
  exact ⟨key, List.mem_of_getElem? found⟩

theorem height_lt_of_child? {value inner : Value} {position : Nat}
    (child : value.child? position = some inner) : inner.height < value.height := by
  cases value with
  | map entries =>
      obtain ⟨key, member⟩ := mem_entries_of_child? child
      exact Nat.lt_succ_of_le (height_le_of_mem_entries member)
  | list items =>
      exact Nat.lt_succ_of_le (height_le_of_mem_items (List.mem_of_getElem? child))
  | _ => cases child

/-- What holds of a value as soon as it holds of its children holds of every value. -/
theorem induction_on_children {holds : Value → Prop}
    (step : ∀ value, (∀ position inner, value.child? position = some inner → holds inner) →
      holds value) (value : Value) : holds value :=
  step value fun _ inner child =>
    have := height_lt_of_child? child
    induction_on_children step inner
termination_by value.height

end Value

namespace Reference

/-- The mapping has an entry with the key of references. -/
def HasReference (entries : Entries) : Prop :=
  ∃ value, (.str "$ref", value) ∈ entries

/-- The value of every reference key of the document is a text. -/
def HasTextReferences (root : Value) : Prop :=
  ∀ place entries value, root.inner? place = some (.map entries) →
    (.str "$ref", value) ∈ entries → ∃ text, value = .str text

/-- No mapping around the place has a reference key. -/
def IsOutermost (value : Value) (place : Place) : Prop :=
  ∀ above entries, above <+: place → above ≠ place →
    value.inner? above = some (.map entries) → ¬ HasReference entries

theorem IsOutermost.of_concat {value : Value} {place : Place} {position : Nat}
    (outermost : IsOutermost value (place ++ [position])) : IsOutermost value place := by
  intro above entries upTo _ found
  refine outermost above entries (upTo.trans (List.prefix_append place [position])) ?_ found
  rintro rfl
  have shorter := upTo.length_le
  rw [List.length_append, List.length_singleton] at shorter
  omega

theorem IsOutermost.not_hasReference {value : Value} {place : Place} {position : Nat}
    {entries : Entries} (outermost : IsOutermost value (place ++ [position]))
    (found : value.inner? place = some (.map entries)) : ¬ HasReference entries :=
  outermost place entries (List.prefix_append place [position]) (by simp) found

theorem hasReference_of_ofEntries? {entries : Entries} {reference : Text}
    (stands : ofEntries? entries = some reference) : HasReference entries := by
  obtain ⟨value, found, _⟩ := Option.bind_eq_some_iff.mp stands
  exact ⟨value, Entries.mem_of_field? found⟩

theorem ofEntries?_eq_none {entries : Entries} (without : ¬ HasReference entries) :
    ofEntries? entries = none := by
  cases standing : ofEntries? entries with
  | none => rfl
  | some reference => exact absurd (hasReference_of_ofEntries? standing) without

/-- In a document with text references, a mapping with a reference key stands for a reference. -/
theorem exists_ofEntries? {root : Value} (texts : HasTextReferences root) {place : Place}
    {entries : Entries} (there : root.inner? place = some (.map entries))
    (has : HasReference entries) : ∃ reference, ofEntries? entries = some reference := by
  obtain ⟨value, member⟩ := has
  obtain ⟨found, first⟩ := Entries.exists_field?_of_mem member
  obtain ⟨text, rfl⟩ := texts place entries found there (Entries.mem_of_field? first)
  exact ⟨text, by rw [ofEntries?, first]; rfl⟩

@[simp] theorem hasTextReferences_scalar (value : Scalar) : HasTextReferences (.scalar value) := by
  intro place entries _ there
  cases place <;> simp [Value.inner?, Value.child?] at there

/-- A mapping has text references if its own reference key has a text and its values have them. -/
@[simp] theorem hasTextReferences_map (entries : Entries) :
    HasTextReferences (.map entries) ↔
      (∀ value, (.str "$ref", value) ∈ entries → ∃ text, value = .str text) ∧
        ∀ entry ∈ entries, HasTextReferences entry.2 := by
  constructor
  · intro texts
    refine ⟨fun value member => texts [] entries value rfl member, fun entry member => ?_⟩
    obtain ⟨position, child⟩ := Value.exists_child?_of_mem_entries member
    exact fun place inner value there => texts (position :: place) inner value (by
      rw [Value.inner?, child]
      exact there)
  · rintro ⟨own, inside⟩ place inner value there member
    cases place with
    | nil =>
        cases there
        exact own value member
    | cons position rest =>
        obtain ⟨next, child, there⟩ := Option.bind_eq_some_iff.mp there
        obtain ⟨key, inEntries⟩ := Value.mem_entries_of_child? child
        exact inside _ inEntries rest inner value there member

/-! ## References of a document -/

theorem mem_allOfEntries {reference : Text} {entries : Entries} :
    reference ∈ allOfEntries entries ↔ ∃ entry ∈ entries, reference ∈ all entry.2 := by
  induction entries with
  | nil => simp [allOfEntries]
  | cons entry rest ih => simp [allOfEntries, ih]

theorem mem_allOfItems {reference : Text} {items : List Value} :
    reference ∈ allOfItems items ↔ ∃ item ∈ items, reference ∈ all item := by
  induction items with
  | nil => simp [allOfItems]
  | cons item rest ih => simp [allOfItems, ih]

theorem mem_all_of_ofEntries? {entries : Entries} {reference : Text}
    (stands : ofEntries? entries = some reference) : reference ∈ all (.map entries) := by
  simp [all, stands]

theorem mem_all_of_child? {value inner : Value} {position : Nat} {reference : Text}
    (child : value.child? position = some inner) (member : reference ∈ all inner) :
    reference ∈ all value := by
  cases value with
  | map entries =>
      obtain ⟨key, inEntries⟩ := Value.mem_entries_of_child? child
      exact List.mem_append_right _ (mem_allOfEntries.mpr ⟨_, inEntries, member⟩)
  | list items => exact mem_allOfItems.mpr ⟨inner, List.mem_of_getElem? child, member⟩
  | _ => cases child

theorem mem_all_of_inner? {value inner : Value} {place : Place} {reference : Text}
    (there : value.inner? place = some inner) (member : reference ∈ all inner) :
    reference ∈ all value := by
  induction place generalizing value with
  | nil =>
      cases there
      exact member
  | cons position rest ih =>
      obtain ⟨next, child, there⟩ := Option.bind_eq_some_iff.mp there
      exact mem_all_of_child? child (ih there)

/-! ## Targets -/

theorem exists_child?_of_step {current next : Value} {segment : Text}
    (success : step current segment = .ok next) :
    ∃ position, current.child? position = some next := by
  cases current with
  | map entries =>
      simp only [step] at success
      split at success
      · cases success
        rename_i found
        obtain ⟨⟨key, value⟩, first, rfl⟩ := Option.map_eq_some_iff.mp found
        exact Value.exists_child?_of_mem_entries (List.mem_of_find?_eq_some first)
      · cases success
  | list items =>
      simp only [step] at success
      split at success
      · cases success
        rename_i found
        obtain ⟨position, _, found⟩ := Option.bind_eq_some_iff.mp found
        refine List.mem_iff_getElem?.mp ?_
        cases position with
        | ofNat index => exact List.mem_of_getElem? found
        | negSucc index => exact List.mem_reverse.mp (List.mem_of_getElem? found)
      · cases success
  | _ => cases success

theorem exists_inner?_of_walk {current found : Value} {segments : List Text}
    (success : walk current segments = .ok found) :
    ∃ place, current.inner? place = some found := by
  induction segments generalizing current with
  | nil =>
      cases success
      exact ⟨[], rfl⟩
  | cons segment rest ih =>
      simp only [walk] at success
      split at success
      · rename_i next first
        obtain ⟨position, child⟩ := exists_child?_of_step first
        obtain ⟨place, there⟩ := ih success
        exact ⟨position :: place, by simp [Value.inner?, child, there]⟩
      · cases success

/-- A reference that resolves names a value at a place of the document. -/
theorem exists_inner?_of_target {root found : Value} {reference : Text}
    (success : target root reference = .ok found) :
    ∃ place, root.inner? place = some found := by
  unfold target at success
  split at success
  · cases success
  · split at success
    · rename_i walked
      cases success
      exact exists_inner?_of_walk walked
    · cases success

end Reference

end ApiForge
