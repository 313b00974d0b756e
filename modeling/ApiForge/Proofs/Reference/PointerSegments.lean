import ApiForge.Proofs.Reference.PointerPaths

/-!
# Segments that resolve

In the syntax of pointers a segment names a key of a mapping or, in decimal
digits without leading zeros, a position of a list. What is resolved is more: in
a list every numeral counts, with margins, a sign, underscores and digits of any
script, and a negative one counts from the end. Beyond that nothing is resolved,
and every reference that is not ends in a failure that names it.
-/

namespace ApiForge.Reference

variable {root current next value : Value} {segment : Text} {segments : List Text}

/-- The segment names this child in the syntax of pointers. -/
inductive IsChild : Value → Text → Value → Prop where
  | key {entries : Entries} {name : Text} {inner : Value}
      (found : Entries.field? name entries = some inner) : IsChild (.map entries) name inner
  | item {items : List Value} {index : Nat} {inner : Value}
      (there : items[index]? = some inner) : IsChild (.list items) (Text.ofNat index) inner

/-- The segment is a key, or a numeral that counts from the start or from the end of a list. -/
inductive IsCounted : Value → Text → Value → Prop where
  | key {entries : Entries} {name : Text} {inner : Value}
      (found : Entries.field? name entries = some inner) : IsCounted (.map entries) name inner
  | item {items : List Value} {numeral : Text} {index : Nat} {inner : Value}
      (spelled : Numeral.Spells numeral index) (there : items[index]? = some inner) :
      IsCounted (.list items) numeral inner
  | itemFromEnd {items : List Value} {numeral : Text} {index : Nat} {inner : Value}
      (spelled : Numeral.Spells numeral (Int.negSucc index))
      (there : items.reverse[index]? = some inner) : IsCounted (.list items) numeral inner

/-- The segments lead from the value to another one by steps of a kind. -/
inductive Leads (isStep : Value → Text → Value → Prop) : Value → List Text → Value → Prop where
  | here {value : Value} : Leads isStep value [] value
  | next {value inner found : Value} {segment : Text} {segments : List Text}
      (first : isStep value segment inner) (rest : Leads isStep inner segments found) :
      Leads isStep value (segment :: segments) found

/-- The reference is a pointer whose segments, without their escapes, lead to the value. -/
def Names (isStep : Value → Text → Value → Prop) (root : Value) (reference : Text)
    (value : Value) : Prop :=
  ∃ segments, segments ≠ [] ∧ (∀ segment ∈ segments, '/' ∉ segment) ∧
    reference = pointerOf segments ∧ Leads isStep root (segments.map unescape) value

/-! ## Steps -/

/-- A step succeeds for a key and for a numeral in range, and for nothing else. -/
theorem step_eq_ok_iff : step current segment = .ok next ↔ IsCounted current segment next := by
  constructor
  · intro success
    cases current with
    | map entries =>
        simp only [step] at success
        split at success
        · next found =>
            cases success
            exact .key found
        · cases success
    | list items =>
        simp only [step] at success
        split at success
        · next found =>
            cases success
            obtain ⟨position, read, there⟩ := Option.bind_eq_some_iff.mp found
            have spelled := Numeral.integer?_eq_some_iff.mp read
            cases position with
            | ofNat index => exact .item spelled there
            | negSucc index => exact .itemFromEnd spelled there
        · cases success
    | _ => cases success
  · intro counted
    cases counted with
    | key found => simp only [step, found]
    | @item items _ index _ spelled there =>
        have item : itemAt? items (index : Int) = some next := there
        simp only [step, Numeral.integer?_eq_some_iff.mpr spelled, Option.bind_some, item]
    | @itemFromEnd items _ index _ spelled there =>
        have item : itemAt? items (Int.negSucc index) = some next := there
        simp only [step, Numeral.integer?_eq_some_iff.mpr spelled, Option.bind_some, item]

theorem walk_eq_ok_iff :
    walk current segments = .ok value ↔ Leads IsCounted current segments value := by
  induction segments generalizing current with
  | nil =>
      constructor
      · intro success
        cases success
        exact .here
      · intro leads
        cases leads
        rfl
  | cons segment rest ih =>
      constructor
      · intro success
        rw [walk] at success
        split at success
        · next inner stepped => exact .next (step_eq_ok_iff.mp stepped) (ih.mp success)
        · cases success
      · intro leads
        cases leads with
        | next first rest =>
            rw [walk, step_eq_ok_iff.mpr first]
            exact ih.mpr rest

theorem target_eq_ok_iff {reference : Text} :
    target root reference = .ok value ↔ Names IsCounted root reference value := by
  rw [target_eq_ok_iff_walk]
  constructor
  · rintro ⟨steps, internal, walked⟩
    obtain ⟨segments, filled, unmet, same, rfl⟩ := segments?_eq_some_iff.mp internal
    exact ⟨segments, filled, unmet, same, walk_eq_ok_iff.mp walked⟩
  · rintro ⟨segments, filled, unmet, same, leads⟩
    exact ⟨_, segments?_eq_some_iff.mpr ⟨segments, filled, unmet, same, rfl⟩,
      walk_eq_ok_iff.mpr leads⟩

/-! ## Failures -/

/-- The segment names nothing in the value, for this cause. -/
inductive IsRefused : Value → Text → ReferenceFault → Prop where
  | key {entries : Entries} {name : Text} (absent : Entries.field? name entries = none) :
      IsRefused (.map entries) name (.noKey name)
  | item {items : List Value} {text : Text}
      (uncounted : ∀ inner, ¬ IsCounted (.list items) text inner) :
      IsRefused (.list items) text (.badIndex text)
  | kind {value : Value} {text : Text} (noMap : ∀ entries, value ≠ .map entries)
      (noList : ∀ items, value ≠ .list items) : IsRefused value text (.notContainer value.kindName)

/-- The first of the segments that names nothing does so for this cause. -/
inductive Stops : Value → List Text → ReferenceFault → Prop where
  | here {value : Value} {segment : Text} {segments : List Text} {fault : ReferenceFault}
      (refused : IsRefused value segment fault) : Stops value (segment :: segments) fault
  | next {value inner : Value} {segment : Text} {segments : List Text} {fault : ReferenceFault}
      (first : IsCounted value segment inner) (rest : Stops inner segments fault) :
      Stops value (segment :: segments) fault

theorem isRefused_of_step {fault : ReferenceFault} (failed : step current segment = .error fault) :
    IsRefused current segment fault := by
  cases current with
  | map entries =>
      simp only [step] at failed
      split at failed
      · cases failed
      · next absent =>
          cases failed
          exact .key absent
  | list items =>
      have uncounted : ∀ inner, ¬ IsCounted (.list items) segment inner := by
        intro inner counted
        cases failed.symm.trans (step_eq_ok_iff.mpr counted)
      simp only [step] at failed
      split at failed
      · cases failed
      · cases failed
        exact .item uncounted
  | _ =>
      cases failed
      refine .kind (fun _ same => ?_) (fun _ same => ?_)
      all_goals cases same

theorem stops_of_walk {fault : ReferenceFault} (failed : walk current segments = .error fault) :
    Stops current segments fault := by
  induction segments generalizing current with
  | nil => cases failed
  | cons segment rest ih =>
      rw [walk] at failed
      split at failed
      · next inner stepped => exact .next (step_eq_ok_iff.mp stepped) (ih failed)
      · next other stepped =>
          cases failed
          exact .here (isRefused_of_step stepped)

/-- A failure names the reference: it is no pointer, or one of its segments names nothing. -/
theorem exists_fault_of_target {reference : Text} {failure : Failure}
    (failed : target root reference = .error failure) :
    ∃ fault, failure = .unresolvable reference fault ∧
      ((segments? reference = none ∧ fault = .external) ∨
        ∃ steps, segments? reference = some steps ∧ Stops root steps fault) := by
  unfold target at failed
  split at failed
  · next external =>
      cases failed
      exact ⟨_, rfl, .inl ⟨external, rfl⟩⟩
  · next steps internal =>
      split at failed
      · cases failed
      · next fault walked =>
          cases failed
          exact ⟨fault, rfl, .inr ⟨steps, internal, stops_of_walk walked⟩⟩

/-! ## The syntax of pointers -/

/-- In a list, the segment is the decimal digits of a number, without leading zeros. -/
def IsPlainSegment (current : Value) (segment : Text) : Prop :=
  ∀ items, current = .list items → ∃ index, segment = Text.ofNat index

/-- The segment resolves, and it is plain. -/
def IsCountedPlainly (current : Value) (segment : Text) (next : Value) : Prop :=
  IsCounted current segment next ∧ IsPlainSegment current segment

/-- The children that segments name in the syntax of pointers are those that plain segments resolve
to. -/
theorem isChild_iff (counted : HasCountedLists current) :
    IsChild current segment next ↔ IsCountedPlainly current segment next := by
  constructor
  · intro child
    cases child with
    | key found => exact ⟨.key found, nofun⟩
    | @item items index _ there =>
        have spelled := Numeral.integer?_eq_some_iff.mp (integer?_of_position counted there)
        exact ⟨.item spelled there, fun _ _ => ⟨index, rfl⟩⟩
  · rintro ⟨resolved, plain⟩
    -- The digits of a number are read as this number, so they count from the start.
    have read {index : Nat} {position : Int}
        (spelled : Numeral.Spells (Text.ofNat index) position) : (index : Int) = position := by
      have read := Numeral.integer?_eq_some_iff.mpr spelled
      rw [Numeral.integer?_ofNat] at read
      split at read
      · cases read
      · exact Option.some.inj read
    cases resolved with
    | key found => exact .key found
    | @item items _ index _ spelled there =>
        obtain ⟨number, rfl⟩ := plain items rfl
        have same : number = index := Int.ofNat.inj (read spelled)
        exact .item (same ▸ there)
    | @itemFromEnd items _ index _ spelled there =>
        obtain ⟨number, rfl⟩ := plain items rfl
        cases read spelled

theorem exists_child?_of_isChild (child : IsChild current segment next) :
    ∃ position, current.child? position = some next := by
  cases child with
  | key found => exact Value.exists_child?_of_mem_entries (Entries.mem_of_field? found)
  | item there => exact ⟨_, there⟩

theorem leads_isChild_iff (counted : HasCountedLists current) :
    Leads IsChild current segments value ↔ Leads IsCountedPlainly current segments value := by
  induction segments generalizing current with
  | nil =>
      constructor
      all_goals
        intro leads
        cases leads
        exact .here
  | cons segment rest ih =>
      constructor
      all_goals
        intro leads
        obtain _ | ⟨first, onward⟩ := leads
      · obtain ⟨position, child⟩ := exists_child?_of_isChild first
        exact .next ((isChild_iff counted).mp first) ((ih (counted.child child)).mp onward)
      · have child := (isChild_iff counted).mpr first
        obtain ⟨position, there⟩ := exists_child?_of_isChild child
        exact .next child ((ih (counted.child there)).mpr onward)

/-- What a reference resolves to in a document, and what it does not. -/
structure Resolution (root : Value) (reference : Text) : Prop where
  /-- It resolves if and only if its segments are keys and numerals that count an item. -/
  resolves : ∀ value, target root reference = .ok value ↔ Names IsCounted root reference value
  /-- Otherwise it fails, since it is no pointer or since one of its segments names nothing. -/
  fails : (∀ value, ¬ Names IsCounted root reference value) →
    ∃ fault, target root reference = .error (.unresolvable reference fault) ∧
      ((segments? reference = none ∧ fault = .external) ∨
        ∃ steps, segments? reference = some steps ∧ Stops root steps fault)
  /-- It names a value in the syntax of pointers if and only if it resolves by plain segments. -/
  plain : HasCountedLists root → ∀ value,
    Names IsChild root reference value ↔ Names IsCountedPlainly root reference value

/-- A reference resolves by keys and by numerals that count from either end of a list, of which the
plain ones are those of the syntax of pointers. -/
theorem resolution_of_target (root : Value) (reference : Text) : Resolution root reference where
  resolves _ := target_eq_ok_iff
  fails unnamed := by
    cases resolved : target root reference with
    | ok value => exact absurd (target_eq_ok_iff.mp resolved) (unnamed value)
    | error failure =>
        obtain ⟨fault, rfl, cause⟩ := exists_fault_of_target resolved
        exact ⟨fault, rfl, cause⟩
  plain counted value := by
    unfold Names
    simp only [leads_isChild_iff counted]

def stopsDocument : Value :=
  .map [(.str "stops", .list [.str "Harbour", .str "Market"])]

/-- A position with a sign is none in the syntax of pointers, but it resolves to the last item. -/
theorem not_names_of_stopsDocument :
    target stopsDocument "#/stops/-1" = .ok (.str "Market") ∧
      ∀ value, ¬ Names IsChild stopsDocument "#/stops/-1" value := by
  refine ⟨rfl, ?_⟩
  rintro value ⟨segments, filled, unmet, same, leads⟩
  have steps : segments? "#/stops/-1" = some (segments.map unescape) :=
    segments?_eq_some_iff.mpr ⟨segments, filled, unmet, same, rfl⟩
  have known : segments? "#/stops/-1" = some ["stops".toList, "-1".toList] := by decide +kernel
  rw [← Option.some.inj (known.symm.trans steps)] at leads
  obtain _ | ⟨⟨found⟩, _ | ⟨child, _⟩⟩ := leads
  cases found
  generalize sign : "-1".toList = text at child
  cases child with
  | item there =>
      have member : '-' ∈ "-1".toList := by decide
      rw [sign] at member
      exact not_mem_ofNat (by decide) _ member

end ApiForge.Reference
