import ApiForge.Proofs.Reference.Expansion
import Mathlib.Logic.Relation

/-!
# What the expansion leaves

A mapping with a reference that is left in an expanded document stands inside
the expansion of that reference, as it stands in the document, together with
its other entries; all else is copied. Where following references never returns
to a reference that is being expanded, no reference is left, and the result is
its own expansion.
-/

namespace ApiForge.Reference

variable {root result : Value}

/-! ## References left in the result -/

/-- A mapping left in the result with a reference key is one whose reference is in progress. -/
theorem exists_active_of_hasReference (texts : HasTextReferences root)
    (success : expand root = .ok result) {place : Place} {entries : Entries}
    (there : result.inner? place = some (.map entries)) (has : HasReference entries)
    (outermost : IsOutermost result place) :
    ∃ active reference, Reaches root place active (.map entries) ∧
      ofEntries? entries = some reference ∧ reference ∈ active := by
  obtain ⟨active, value, reached, computed, settled⟩ := exists_reaches success there outermost
  cases standing : ofValue? value with
  | some reference =>
      cases value with
      | map original =>
          rw [expandIn_of_active standing (settled _ standing)] at computed
          cases computed
          exact ⟨active, reference, reached, standing, settled _ standing⟩
      | _ => cases standing
  | none =>
      -- A copied mapping has the keys of a mapping that stands for no reference.
      obtain ⟨alike, _⟩ := copy_of_expandIn standing computed
      cases value with
      | map original =>
          obtain ⟨origin, inRoot⟩ := reached.exists_inner?
          obtain ⟨value, member⟩ := has
          have key : Scalar.str "$ref" ∈ original.map (·.1) := by
            rw [show original.map (·.1) = entries.map (·.1) from alike]
            exact List.mem_map_of_mem member
          obtain ⟨⟨_, value⟩, member, rfl⟩ := List.mem_map.mp key
          obtain ⟨reference, stands⟩ := exists_ofEntries? texts inRoot ⟨value, member⟩
          cases standing.symm.trans stands
      | _ => cases alike

/-! ## Following references -/

/-- The expansion of the value meets a mapping with the reference, before following any. -/
inductive Meets : Value → Text → Prop
  | here {entries : Entries} {reference : Text} (stands : ofEntries? entries = some reference) :
      Meets (.map entries) reference
  | enter {value inner : Value} {position : Nat} {reference : Text}
      (plain : ofValue? value = none) (child : value.child? position = some inner)
      (met : Meets inner reference) : Meets value reference

theorem Meets.mem_all {value : Value} {reference : Text} (met : Meets value reference) :
    reference ∈ all value := by
  induction met with
  | here stands => exact mem_all_of_ofEntries? stands
  | enter _ child _ ih => exact mem_all_of_child? child ih

/-- The target of the first reference meets the second one. -/
def LeadsTo (root : Value) (first second : Text) : Prop :=
  ∃ found, target root first = .ok found ∧ Meets found second

/-- No reference that is come to from the document leads back to itself. -/
def NeverReturns (root : Value) : Prop :=
  ∀ first reference, Meets root first → Relation.ReflTransGen (LeadsTo root) first reference →
    ¬ Relation.TransGen (LeadsTo root) reference reference

/-- The reference is met in the document or in the target of the latest reference in progress. -/
def IsMetIn (root : Value) : List Text → Text → Prop
  | [], reference => Meets root reference
  | latest :: _, reference => LeadsTo root latest reference

theorem Reaches.isMetIn {place : Place} {active : List Text} {value : Value}
    (reached : Reaches root place active value) {reference : Text}
    (met : Meets value reference) : IsMetIn root active reference := by
  induction reached with
  | start => exact met
  | follow _ _ _ leads => exact ⟨_, leads, met⟩
  | enter _ plain child ih => exact ih (.enter plain child met)

/-- A reference in progress is come to from the document and leads to all that is met. -/
theorem Reaches.trail {place : Place} {active : List Text} {value : Value}
    (reached : Reaches root place active value) {earlier : Text} (inProgress : earlier ∈ active) :
    (∃ first, Meets root first ∧ Relation.ReflTransGen (LeadsTo root) first earlier) ∧
      ∀ reference, IsMetIn root active reference →
        Relation.TransGen (LeadsTo root) earlier reference := by
  induction reached generalizing earlier with
  | start => cases inProgress
  | enter _ _ _ ih => exact ih inProgress
  | @follow place active entries latest found reached stands _ _ ih =>
      have met : IsMetIn root active latest := reached.isMetIn (.here stands)
      rcases List.mem_cons.mp inProgress with rfl | before
      · refine ⟨?_, fun reference leads => .single leads⟩
        cases active with
        | nil => exact ⟨earlier, met, .refl⟩
        | cons previous rest =>
            obtain ⟨⟨first, start, way⟩, _⟩ := ih List.mem_cons_self
            exact ⟨first, start, way.tail met⟩
      · obtain ⟨comes, onward⟩ := ih before
        exact ⟨comes, fun reference leads => (onward latest met).tail leads⟩

/-- The value has no mapping with a reference key at any place. -/
def IsReferenceFree (value : Value) : Prop :=
  ∀ place entries, value.inner? place = some (.map entries) → ¬ HasReference entries

theorem isReferenceFree_of_neverReturns (texts : HasTextReferences root)
    (success : expand root = .ok result) (neverReturns : NeverReturns root) :
    IsReferenceFree result := by
  intro place
  -- On the length of the place: the mappings around it have no reference key.
  induction length : place.length using Nat.strongRecOn generalizing place with
  | ind count ih =>
      intro entries there has
      have outermost : IsOutermost result place := by
        intro above around upTo other found
        have shorter : above.length < count :=
          length ▸ Nat.lt_of_le_of_ne upTo.length_le fun same => other (upTo.eq_of_length same)
        exact ih above.length shorter above rfl around found
      obtain ⟨active, reference, reached, stands, inProgress⟩ :=
        exists_active_of_hasReference texts success there has outermost
      obtain ⟨⟨first, start, way⟩, onward⟩ := reached.trail inProgress
      exact neverReturns first reference start way
        (onward reference (reached.isMetIn (.here stands)))

/-! ## Expanding again -/

theorem IsReferenceFree.child {value inner : Value} {position : Nat} (free : IsReferenceFree value)
    (child : value.child? position = some inner) : IsReferenceFree inner :=
  fun place entries there => free (position :: place) entries (by
    rw [Value.inner?, child]
    exact there)

theorem mapItems_eq_self {follow : Text → Entries → Except Failure Value} {items : List Value}
    (same : ∀ item ∈ items, mapReferences follow item = .ok item) :
    mapItems follow items = .ok items := by
  induction items with
  | nil => rfl
  | cons item rest ih =>
      rw [mapItems, same item List.mem_cons_self,
        ih fun other member => same other (List.mem_cons_of_mem item member)]
      rfl

theorem mapEntries_eq_self {follow : Text → Entries → Except Failure Value} {entries : Entries}
    (same : ∀ entry ∈ entries, mapReferences follow entry.2 = .ok entry.2) :
    mapEntries follow entries = .ok entries := by
  induction entries with
  | nil => rfl
  | cons entry rest ih =>
      rw [mapEntries, same entry List.mem_cons_self,
        ih fun other member => same other (List.mem_cons_of_mem entry member)]
      rfl

theorem mapReferences_eq_self (follow : Text → Entries → Except Failure Value) {value : Value}
    (free : IsReferenceFree value) : mapReferences follow value = .ok value := by
  induction value using Value.induction_on_children with
  | step value ih =>
      have inside : ∀ position inner, value.child? position = some inner →
          mapReferences follow inner = .ok inner :=
        fun position inner child => ih position inner child (free.child child)
      cases value with
      | map entries =>
          have none : ofEntries? entries = none := ofEntries?_eq_none (free [] entries rfl)
          have same : ∀ entry ∈ entries, mapReferences follow entry.2 = .ok entry.2 := by
            intro entry member
            obtain ⟨position, child⟩ := Value.exists_child?_of_mem_entries member
            exact inside position entry.2 child
          simp only [mapReferences, none, mapEntries_eq_self same]
          rfl
      | list items =>
          have same : ∀ item ∈ items, mapReferences follow item = .ok item := by
            intro item member
            obtain ⟨position, child⟩ := List.mem_iff_getElem?.mp member
            exact inside position item child
          simp only [mapReferences, mapItems_eq_self same]
          rfl
      | _ => rfl

theorem expand_of_isReferenceFree (free : IsReferenceFree root) : expand root = .ok root := by
  rw [expand, expandFrom_eq]
  exact mapReferences_eq_self _ free

/-! ## The law of the expansion -/

/--
A mapping with a reference key that is left in the result, outside of other
such mappings, is one that the expansion comes to while its own reference is in
progress. It lies inside the expansion of this reference and stands so in the
document.
-/
def KeepsAtCyclePoints (root result : Value) : Prop :=
  ∀ place entries, result.inner? place = some (.map entries) → HasReference entries →
    IsOutermost result place →
      ∃ active reference, Reaches root place active (.map entries) ∧
        ofEntries? entries = some reference ∧ reference ∈ active ∧
        IsInside root reference place ∧ ∃ origin, root.inner? origin = some (.map entries)

/-- What the expansion comes to and is no reference is in the result, but for the values in it. -/
def CopiesStructure (root result : Value) : Prop :=
  ∀ place active value, Reaches root place active value → ofValue? value = none →
    ∃ copy, result.inner? place = some copy ∧ IsAlike value copy

/-- The values of the document outside of references are in the result, at the same places. -/
def CopiesOutside (root result : Value) : Prop :=
  ∀ place value, root.inner? place = some value → IsOutermost root place →
    ofValue? value = none → ∃ copy, result.inner? place = some copy ∧ IsAlike value copy

theorem keepsAtCyclePoints_of_expand (texts : HasTextReferences root)
    (success : expand root = .ok result) : KeepsAtCyclePoints root result := by
  intro place entries there has outermost
  obtain ⟨active, reference, reached, stands, inProgress⟩ :=
    exists_active_of_hasReference texts success there has outermost
  exact ⟨active, reference, reached, stands, inProgress, reached.isInside inProgress,
    reached.exists_inner?⟩

theorem copiesStructure_of_expand (success : expand root = .ok result) :
    CopiesStructure root result := by
  intro place active value reached plain
  obtain ⟨copy, computed, there⟩ := reached.expanded success
  exact ⟨copy, there, (copy_of_expandIn plain computed).1⟩

/-- The expansion comes to every value outside of references while none is in progress. -/
theorem reaches_of_isOutermost {place : Place} {value : Value}
    (there : root.inner? place = some value) (outermost : IsOutermost root place) :
    Reaches root place [] value := by
  induction place using List.reverseRecOn generalizing value with
  | nil =>
      cases there
      exact .start
  | append_singleton place position ih =>
      rw [Value.inner?_concat] at there
      obtain ⟨around, above, child⟩ := Option.bind_eq_some_iff.mp there
      have plain : ofValue? around = none := by
        cases around with
        | map entries => exact ofEntries?_eq_none (outermost.not_hasReference above)
        | _ => rfl
      exact (ih above outermost.of_concat).enter plain child

/--
Expanding a document leaves references at cycle points only, where they stand
as in the document, and copies the structure of the document and of the targets.
Where following references never returns to one that is being expanded, no
reference is left, and the result expands to itself.
-/
theorem expansion_of_expand (texts : HasTextReferences root)
    (success : expand root = .ok result) :
    KeepsAtCyclePoints root result ∧ CopiesStructure root result ∧ CopiesOutside root result ∧
      (NeverReturns root → IsReferenceFree result ∧ expand result = .ok result) := by
  have copies := copiesStructure_of_expand success
  refine ⟨keepsAtCyclePoints_of_expand texts success, copies, ?_, ?_⟩
  · intro place value there outermost plain
    exact copies place [] value (reaches_of_isOutermost there outermost) plain
  · intro neverReturns
    have free := isReferenceFree_of_neverReturns texts success neverReturns
    exact ⟨free, expand_of_isReferenceFree free⟩

/-- A mapping that stands for a reference and has nothing beside it. -/
def referenceTo (reference : Text) : Value :=
  .map [(.str "$ref", .str reference)]

/-- What leads no further leads back to nothing that it comes to. -/
theorem not_transGen_of_last {α : Type} {step : α → α → Prop} {last reached : α}
    (ends : ∀ next, ¬ step last next) (way : Relation.ReflTransGen step last reached) :
    ¬ Relation.TransGen step reached reached := by
  intro returns
  rcases way.cases_head with rfl | ⟨next, onward, _⟩
  · obtain ⟨next, onward, _⟩ := Relation.TransGen.head'_iff.mp returns
    exact ends next onward
  · exact ends next onward

def songDocument : Value :=
  .map [
    (.str "song", referenceTo "#/title"),
    (.str "title", .map [(.str "type", .str "string")])]

def expandedSong : Value :=
  .map [
    (.str "song", .map [(.str "type", .str "string")]),
    (.str "title", .map [(.str "type", .str "string")])]

theorem neverReturns_songDocument : NeverReturns songDocument := by
  have last : ∀ next, ¬ LeadsTo songDocument "#/title" next := by
    rintro next ⟨found, leads, met⟩
    cases leads
    cases met.mem_all
  intro first reference start way
  cases List.mem_singleton.mp (show first ∈ ["#/title".toList] from start.mem_all)
  exact not_transGen_of_last last way

def treeDocument : Value :=
  .map [
    (.str "tree", referenceTo "#/node"),
    (.str "node", .map [(.str "left", referenceTo "#/node")])]

def expandedTree : Value :=
  .map [
    (.str "tree", .map [(.str "left", referenceTo "#/node")]),
    (.str "node", .map [(.str "left", .map [(.str "left", referenceTo "#/node")])])]

theorem isOutermost_of_expandedTree : IsOutermost expandedTree [0, 0] := by
  intro above entries upTo other found
  match above, upTo, found with
  | [], _, found =>
      cases found
      simp [HasReference]
  | [0], _, found =>
      cases found
      simp [HasReference]
  | [0, 0], _, _ => exact absurd rfl other

/-- No reference is left of a song, and those of a tree are left where they come back. -/
theorem expansion_of_songAndTree :
    (HasTextReferences songDocument ∧ expand songDocument = .ok expandedSong ∧
      NeverReturns songDocument ∧ IsReferenceFree expandedSong ∧
      expand expandedSong = .ok expandedSong) ∧
    HasTextReferences treeDocument ∧ expand treeDocument = .ok expandedTree ∧
      ∃ active, Reaches treeDocument [0, 0] active (referenceTo "#/node") ∧
        "#/node".toList ∈ active := by
  have textsOfSong : HasTextReferences songDocument := by simp [songDocument, referenceTo]
  have textsOfTree : HasTextReferences treeDocument := by simp [treeDocument, referenceTo]
  have song : expand songDocument = .ok expandedSong := by with_unfolding_all rfl
  have tree : expand treeDocument = .ok expandedTree := by with_unfolding_all rfl
  obtain ⟨_, _, _, closed⟩ := expansion_of_expand textsOfSong song
  obtain ⟨free, again⟩ := closed neverReturns_songDocument
  obtain ⟨kept, _⟩ := expansion_of_expand textsOfTree tree
  obtain ⟨active, reference, reached, stands, inProgress, _⟩ :=
    kept [0, 0] _ rfl ⟨_, List.mem_cons_self⟩ isOutermost_of_expandedTree
  cases stands
  exact ⟨⟨textsOfSong, song, neverReturns_songDocument, free, again⟩, textsOfTree, tree,
    active, reached, inProgress⟩

/-! ## Entries beside a reference -/

/-- A mapping with another reference beside its own. -/
def pairOfReferences : Value :=
  .map [(.str "$ref", .str "#/pair"), (.str "other", referenceTo "#/text")]

def pairDocument : Value :=
  .map [(.str "pair", pairOfReferences), (.str "text", .str "x")]

theorem values_of_pairDocument {place : Place} {active : List Text} {value : Value}
    (reached : Reaches pairDocument place active value) :
    value = pairDocument ∨ value = pairOfReferences ∨ value = .str "x" := by
  induction reached with
  | start => exact .inl rfl
  | follow _ stands _ leads ih =>
      rcases ih with same | same | same
      · cases same
        cases stands
      · cases same
        cases stands
        cases leads
        exact .inr (.inl rfl)
      · cases same
  | @enter _ _ _ _ position _ plain child ih =>
      rcases ih with rfl | rfl | rfl
      · match position, child with
        | 0, child => exact .inr (.inl (Option.some.inj child).symm)
        | 1, child => exact .inr (.inr (Option.some.inj child).symm)
      · cases plain
      · cases child

/-- What stands beside a reference that is left is not inside the expansion of its own reference. -/
theorem not_isInside_of_pairDocument :
    HasTextReferences pairDocument ∧ expand pairDocument = .ok pairDocument ∧
      pairDocument.inner? [0, 1] = some (referenceTo "#/text") ∧
      ¬ IsInside pairDocument "#/text" [0, 1] := by
  refine ⟨by simp [pairDocument, pairOfReferences, referenceTo], by with_unfolding_all rfl, rfl, ?_⟩
  rintro ⟨above, active, entries, _, reached, stands, _⟩
  rcases values_of_pairDocument reached with same | same | same
  · cases same
    cases stands
  · cases same
    cases stands
  · cases same

end ApiForge.Reference
