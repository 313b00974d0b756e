import ApiForge.Document.Access
import ApiForge.Record.Checked
import Mathlib.Data.List.Forall2

/-!
# Computations that succeed

What comes before a result: a computation that succeeds has succeeded at every
step, a traversal that succeeds has succeeded at every element, and a checked
record that is accepted has all its fields.
-/

namespace ApiForge.Success

variable {α β ε : Type}

/-- The first step of a computation that succeeds succeeds, and the rest of it from there. -/
theorem of_bind {first : Except ε α} {next : α → Except ε β} {result : β}
    (success : (first >>= next) = .ok result) :
    ∃ value, first = .ok value ∧ next value = .ok result := by
  cases first with
  | error fault => cases success
  | ok value => exact ⟨value, rfl, success⟩

theorem of_map {function : α → β} {first : Except ε α} {result : β}
    (success : (function <$> first) = .ok result) :
    ∃ value, first = .ok value ∧ function value = result := by
  cases first with
  | error fault => cases success
  | ok value => exact ⟨value, rfl, Except.ok.inj success⟩

theorem of_toOption {computed : Except ε α} {result : α} (success : computed.toOption = some result) :
    computed = .ok result := by
  cases computed with
  | error fault => cases success
  | ok value => exact congrArg Except.ok (Option.some.inj success)

theorem of_foreseen {value : Option α} {result : α} (success : foreseen value = .ok result) :
    value = some result := by
  cases value with
  | none => cases success
  | some found => exact congrArg some (Except.ok.inj success)

/-! ## Traversals -/

/-- What is related to the elements of a list in order is related to one of them each. -/
theorem exists_of_forall₂ {related : α → β → Prop} {list : List α} {results : List β}
    (pairs : List.Forall₂ related list results) {result : β} (member : result ∈ results) :
    ∃ element ∈ list, related element result := by
  induction pairs with
  | nil => cases member
  | @cons first _ _ _ here _ ih =>
      rcases List.mem_cons.mp member with rfl | inTail
      · exact ⟨first, List.mem_cons_self, here⟩
      · obtain ⟨element, inRest, found⟩ := ih inTail
        exact ⟨element, List.mem_cons_of_mem _ inRest, found⟩

/-- Pairs are also related otherwise, if the elements of the first list make them so. -/
theorem forall₂_of_mem {related other : α → β → Prop} {list : List α} {results : List β}
    (pairs : List.Forall₂ related list results)
    (implied : ∀ element ∈ list, ∀ result, related element result → other element result) :
    List.Forall₂ other list results := by
  induction pairs with
  | nil => exact .nil
  | cons here _ ih =>
      exact .cons (implied _ List.mem_cons_self _ here)
        (ih fun element member => implied element (List.mem_cons_of_mem _ member))

/-- What can be seen alike of related elements can be seen alike of the lists. -/
theorem map_eq_of_forall₂ {γ : Type} {related : α → β → Prop} {list : List α} {results : List β}
    (pairs : List.Forall₂ related list results) (seen : α → γ) (seenOfResult : β → γ)
    (agrees : ∀ element result, related element result → seenOfResult result = seen element) :
    results.map seenOfResult = list.map seen := by
  induction pairs with
  | nil => rfl
  | cons here _ ih => rw [List.map_cons, List.map_cons, agrees _ _ here, ih]

theorem any_eq_of_forall₂ {related : α → β → Prop} {list : List α} {results : List β}
    (pairs : List.Forall₂ related list results) {test : α → Bool} {testOfResult : β → Bool}
    (agrees : ∀ element result, related element result → testOfResult result = test element) :
    results.any testOfResult = list.any test := by
  have seen := congrArg (List.any · id) (map_eq_of_forall₂ pairs test testOfResult agrees)
  rwa [List.any_map, List.any_map] at seen

theorem forall₂_filter {related : α → β → Prop} {list : List α} {results : List β}
    (pairs : List.Forall₂ related list results) {test : α → Bool} {testOfResult : β → Bool}
    (agrees : ∀ element result, related element result → testOfResult result = test element) :
    List.Forall₂ related (list.filter test) (results.filter testOfResult) := by
  refine List.rel_filter (fun element result here => ?_) pairs
  dsimp only
  rw [agrees element result here]

/-- What is first to pass a test is related to what is first to pass it in the other list. -/
theorem rel_find? {related : α → β → Prop} {list : List α} {results : List β}
    (pairs : List.Forall₂ related list results) {test : α → Bool} {testOfResult : β → Bool}
    (agrees : ∀ element result, related element result → testOfResult result = test element) :
    Option.Rel related (list.find? test) (results.find? testOfResult) := by
  induction pairs with
  | nil => exact .none
  | @cons element result _ _ here _ ih =>
      rw [List.find?_cons, List.find?_cons, agrees element result here]
      cases test element with
      | true => exact .some here
      | false => exact ih

/-- The results of a traversal that succeeds are those of its elements, in order. -/
theorem forall₂_of_mapM {step : α → Except ε β} {list : List α} {results : List β}
    (success : list.mapM step = .ok results) :
    List.Forall₂ (fun element result => step element = .ok result) list results := by
  induction list generalizing results with
  | nil =>
      cases success
      exact .nil
  | cons first rest ih =>
      rw [List.mapM_cons] at success
      obtain ⟨head, here, success⟩ := of_bind success
      obtain ⟨tail, there, success⟩ := of_bind success
      cases success
      exact .cons here (ih there)

/-- Every result of a traversal that succeeds is that of an element. -/
theorem exists_of_mem_mapM {step : α → Except ε β} {list : List α} {results : List β}
    (success : list.mapM step = .ok results) {result : β} (member : result ∈ results) :
    ∃ element ∈ list, step element = .ok result :=
  exists_of_forall₂ (forall₂_of_mapM success) member

/-- A traversal that succeeds has succeeded at every element. -/
theorem of_mem_mapM {step : α → Except ε β} {list : List α} {results : List β}
    (success : list.mapM step = .ok results) {element : α} (member : element ∈ list) :
    ∃ result, step element = .ok result := by
  obtain ⟨result, _, here⟩ := exists_of_forall₂ (forall₂_of_mapM success).flip member
  exact ⟨result, here⟩

/-- What can be seen of every result can be seen of all results. -/
theorem map_eq_of_mapM {γ : Type} {step : α → Except ε β} {list : List α} {results : List β}
    (seen : β → γ) (expected : α → γ) (success : list.mapM step = .ok results)
    (agrees : ∀ element result, step element = .ok result → seen result = expected element) :
    results.map seen = list.map expected := by
  have steps := forall₂_of_mapM success
  clear success
  induction steps with
  | nil => rfl
  | @cons first head _ _ here _ ih =>
      rw [List.map_cons, List.map_cons, agrees first head here, ih]

/-- Results of related lists are related, if those of related elements are. -/
theorem forall₂_of_two {α' β' : Type} {related : α → α' → Prop} {kept : β → β' → Prop}
    {made : α → β → Prop} {otherMade : α' → β' → Prop} {list : List α} {others : List α'}
    (pairs : List.Forall₂ related list others) {results : List β} {otherResults : List β'}
    (first : List.Forall₂ made list results) (second : List.Forall₂ otherMade others otherResults)
    (keeps : ∀ element ∈ list, ∀ partner, related element partner → ∀ result otherResult,
      made element result → otherMade partner otherResult → kept result otherResult) :
    List.Forall₂ kept results otherResults := by
  induction pairs generalizing results otherResults with
  | nil =>
      cases first
      cases second
      exact .nil
  | cons here _ ih =>
      obtain _ | ⟨head, tail⟩ := first
      obtain _ | ⟨otherHead, otherTail⟩ := second
      exact .cons (keeps _ List.mem_cons_self _ here _ _ head otherHead)
        (ih tail otherTail fun element member => keeps element (List.mem_cons_of_mem _ member))

/-- Traversals of related lists that succeed have related results, if the results of related
elements are. -/
theorem forall₂_of_two_mapM {α' β' : Type} {related : α → α' → Prop} {kept : β → β' → Prop}
    {step : α → Except ε β} {other : α' → Except ε β'} {list : List α} {others : List α'}
    (pairs : List.Forall₂ related list others) {results : List β} {otherResults : List β'}
    (success : list.mapM step = .ok results) (otherSuccess : others.mapM other = .ok otherResults)
    (keeps : ∀ element ∈ list, ∀ partner, related element partner → ∀ result otherResult,
      step element = .ok result → other partner = .ok otherResult → kept result otherResult) :
    List.Forall₂ kept results otherResults :=
  forall₂_of_two pairs (forall₂_of_mapM success) (forall₂_of_mapM otherSuccess) keeps

/-- A filter that succeeds has tested every element. -/
theorem of_mem_filterM {test : α → Except ε Bool} {list kept : List α}
    (success : list.filterM test = .ok kept) {element : α} (member : element ∈ list) :
    ∃ answer, test element = .ok answer := by
  have general : ∀ (rest passed result : List α), rest.filterAuxM test passed = .ok result →
      element ∈ rest → ∃ answer, test element = .ok answer := by
    intro rest
    induction rest with
    | nil => exact fun _ _ _ none => nomatch none
    | cons first rest ih =>
        intro passed result success member
        obtain ⟨answer, here, success⟩ := of_bind success
        rcases List.mem_cons.mp member with rfl | inRest
        · exact ⟨answer, here⟩
        · exact ih _ _ success inRest
  obtain ⟨reversed, passed, _⟩ := of_bind success
  exact general list [] reversed passed member

/-- A filter that succeeds keeps the elements for which its test says so. -/
theorem filter_of_filterM {test : α → Except ε Bool} {list kept : List α} (keep : α → Bool)
    (success : list.filterM test = .ok kept)
    (agrees : ∀ element answer, test element = .ok answer → keep element = answer) :
    kept = list.filter keep := by
  have general : ∀ (rest passed result : List α), rest.filterAuxM test passed = .ok result →
      result = (rest.filter keep).reverse ++ passed := by
    intro rest
    induction rest with
    | nil =>
        intro passed result success
        cases success
        rfl
    | cons first rest ih =>
        intro passed result success
        obtain ⟨answer, here, success⟩ := of_bind success
        rw [ih _ _ success, List.filter_cons, agrees first answer here]
        cases answer <;> simp
  obtain ⟨reversed, passed, success⟩ := of_bind success
  cases success
  rw [general list [] reversed passed, List.append_nil, List.reverse_reverse]

/-- A result for an optional element is that of the element. -/
theorem of_optionMapM {step : α → Except ε β} {value : Option α} {result : β}
    (success : value.mapM step = .ok (some result)) :
    ∃ element, value = some element ∧ step element = .ok result := by
  cases value with
  | none => cases success
  | some element =>
      obtain ⟨found, here, same⟩ := of_map success
      cases same
      exact ⟨element, rfl, here⟩

/-- Checks of all elements that succeed have succeeded for each element. -/
theorem of_forM {check : α → Except ε Unit} {list : List α} (success : list.forM check = .ok ())
    {element : α} (member : element ∈ list) : check element = .ok () := by
  induction list with
  | nil => cases member
  | cons first rest ih =>
      obtain ⟨_, here, success⟩ := of_bind success
      rcases List.mem_cons.mp member with rfl | inRest
      · exact here
      · exact ih success inRest

/-- Checks of all elements succeed, or end with the fault of one of them. -/
theorem forM_cases (check : α → Except ε Unit) (list : List α) :
    list.forM check = .ok () ∨
      ∃ element ∈ list, ∃ fault, check element = .error fault ∧ list.forM check = .error fault := by
  induction list with
  | nil => exact .inl rfl
  | cons first rest ih =>
      change (check first >>= fun _ => rest.forM check) = _ ∨ _
      cases here : check first with
      | error fault =>
          refine .inr ⟨first, List.mem_cons_self, fault, here, ?_⟩
          change (check first >>= fun _ => rest.forM check) = _
          rw [here]
          rfl
      | ok _ =>
          rcases ih with success | ⟨element, member, fault, refused, ended⟩
          · exact .inl success
          · refine .inr ⟨element, List.mem_cons_of_mem _ member, fault, refused, ?_⟩
            change (check first >>= fun _ => rest.forM check) = _
            rw [here]
            exact ended

/-- What every step of a fold keeps, the fold keeps. -/
theorem foldlM_keeps (holds : β → Prop) {step : β → α → Except ε β} {list : List α}
    {start result : β} (success : list.foldlM step start = .ok result) (atStart : holds start)
    (keeps : ∀ known element next, holds known → step known element = .ok next → holds next) :
    holds result := by
  induction list generalizing start with
  | nil =>
      cases success
      exact atStart
  | cons first rest ih =>
      rw [List.foldlM_cons] at success
      obtain ⟨next, here, success⟩ := of_bind success
      exact ih success (keeps _ _ _ atStart here)

/-- Every step of a fold that succeeds has succeeded for its element. -/
theorem exists_of_mem_foldlM {step : β → α → Except ε β} {list : List α} {start result : β}
    (success : list.foldlM step start = .ok result) {element : α} (member : element ∈ list) :
    ∃ known next, step known element = .ok next := by
  induction list generalizing start with
  | nil => cases member
  | cons first rest ih =>
      rw [List.foldlM_cons] at success
      obtain ⟨next, here, success⟩ := of_bind success
      rcases List.mem_cons.mp member with rfl | inRest
      · exact ⟨start, next, here⟩
      · exact ih success inRest

/-! ## Checked records -/

theorem of_orAbort {checked : Checked α} {result : α} (success : checked.orAbort = .ok result) :
    checked = .ok result := by
  cases checked with
  | error faults => cases success
  | ok value => exact congrArg Except.ok (Except.ok.inj success)

/-- A checked text is the text that was given. -/
theorem of_text {value : Value} {place text : Text}
    (success : (Checked.text value).within place = .ok text) : value = .str text := by
  cases value with
  | scalar value =>
      cases value with
      | str given =>
          cases success
          rfl
      | _ => cases success
  | _ => cases success

theorem of_checkedMap {function : α → β} {checked : Checked α} {result : β}
    (success : checked.map function = .ok result) :
    ∃ value, checked = .ok value ∧ function value = result := by
  cases checked with
  | error faults => cases success
  | ok value => exact ⟨value, rfl, Except.ok.inj success⟩

theorem of_and {function : Checked (α → β)} {field : Checked α} {result : β}
    (success : function.and field = .ok result) :
    ∃ make value, function = .ok make ∧ field = .ok value ∧ make value = result := by
  cases function with
  | error faults => cases field <;> cases success
  | ok make =>
      cases field with
      | error faults => cases success
      | ok value => exact ⟨make, value, rfl, rfl, Except.ok.inj success⟩

theorem checkedMap_eq_ok_iff {function : α → β} {checked : Checked α} {result : β} :
    checked.map function = .ok result ↔ ∃ value, checked = .ok value ∧ function value = result := by
  constructor
  · exact of_checkedMap
  · rintro ⟨value, rfl, rfl⟩
    rfl

theorem and_eq_ok_iff {function : Checked (α → β)} {field : Checked α} {result : β} :
    function.and field = .ok result ↔
      ∃ make value, function = .ok make ∧ field = .ok value ∧ make value = result := by
  constructor
  · exact of_and
  · rintro ⟨make, value, rfl, rfl, rfl⟩
    rfl

theorem within_eq_ok_iff {place : Text} {checked : Checked α} {result : α} :
    checked.within place = .ok result ↔ checked = .ok result := by
  cases checked with
  | ok value => rfl
  | error faults => exact ⟨nofun, nofun⟩

/-- Values in order succeed if the first does and the others do. -/
theorem all_cons_eq_ok_iff {first : Checked α} {rest : List (Checked α)} {results : List α} :
    Checked.all (first :: rest) = .ok results ↔
      ∃ head tail, first = .ok head ∧ Checked.all rest = .ok tail ∧ head :: tail = results := by
  rw [Checked.all, and_eq_ok_iff]
  constructor
  · rintro ⟨make, tail, here, there, rfl⟩
    obtain ⟨head, read, rfl⟩ := of_checkedMap here
    exact ⟨head, tail, read, there, rfl⟩
  · rintro ⟨head, tail, rfl, there, rfl⟩
    exact ⟨_, tail, rfl, there, rfl⟩

/-! ## Decisions -/

variable {holds : α → Prop} [DecidablePred holds]

instance decidableForallSome (value : Option α) :
    Decidable (∀ result, value = some result → holds result) :=
  inferInstanceAs (Decidable (∀ result, result ∈ value → holds result))

/-- What is said of a result, if there is one, can be decided by computing it. -/
instance decidableForallOk (computed : Except ε α) :
    Decidable (∀ result, computed = .ok result → holds result) :=
  match computed with
  | .ok result =>
      decidable_of_iff (holds result)
        ⟨fun here _ same => Except.ok.inj same ▸ here, fun all => all result rfl⟩
  | .error _ => .isTrue fun _ same => nomatch same

instance decidableForallOkSome (computed : Except ε (Option α)) :
    Decidable (∀ result, computed = .ok (some result) → holds result) :=
  decidable_of_iff (∀ value, computed = .ok value → ∀ result, value = some result → holds result)
    ⟨fun all result same => all _ same result rfl,
      fun all _ same result here => all result (here ▸ same)⟩

end ApiForge.Success
