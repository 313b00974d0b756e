import ApiForge.Proofs.Import.BoundedRuns
import Mathlib.Logic.Relation

/-!
# Ends of expansions

The expansion calls itself at the children of a value and at what a reference
leads to, which may be higher than the mapping with the reference. With a child
the height gets less; with a reference one more is in progress, and those in
progress are references of the document. So every chain of calls ends, and an
expansion that is given a depth comes to a result as soon as the depth suffices.
-/

namespace ApiForge.Reference

open Import (Attempt IsCovered IsWithin isCovered_of_target length_remaining limit mapM_settled
  settled settled_bind weight weight_lt_limit weight_target_lt)

variable {root : Value}

/-! ## Calls -/

/-- The expansion calls itself, each time at a value and with the references in progress, the latest
first. -/
inductive ExpansionCalls (root : Value) : List Text × Value → List Text × Value → Prop where
  | child {seen : List Text} {value inner : Value} {position : Nat}
      (plain : ofValue? value = none) (child : value.child? position = some inner) :
      ExpansionCalls root (seen, value) (seen, inner)
  | target {seen : List Text} {value found : Value} {reference : Text}
      (stands : ofValue? value = some reference) (fresh : reference ∉ seen)
      (leads : target root reference = .ok found) :
      ExpansionCalls root (seen, value) (reference :: seen, found)

/-- How many references of the document are not in progress, and then the height of the value. -/
def expansionMeasure (root : Value) (visit : List Text × Value) : Nat × Nat :=
  ((remaining root visit.1).length, visit.2.height)

/-- A call that goes down the document has fewer references left, or as many and a lower value. -/
theorem measure_lt_of_calls {outer inner : List Text × Value}
    (calls : ExpansionCalls root outer inner) (covered : IsCovered root outer.2) :
    IsCovered root inner.2 ∧ Prod.Lex (· < ·) (· < ·) (expansionMeasure root inner)
      (expansionMeasure root outer) := by
  cases calls with
  | child _ child =>
      exact ⟨fun _ held => covered _ (mem_all_of_child? child held),
        .right _ (Value.height_lt_of_child? child)⟩
  | target stands fresh leads =>
      refine ⟨isCovered_of_target leads, .left _ _ ?_⟩
      have inDocument := covered _ (Import.mem_all_of_ofValue? stands)
      exact (length_remaining inDocument fresh).symm ▸ Nat.lt_succ_self _

/-- Every chain of calls ends from where the references are those of the document. -/
theorem acc_of_isCovered {visit : List Text × Value} (covered : IsCovered root visit.2) :
    Acc (fun inner outer => ExpansionCalls root outer inner) visit := by
  have founded := (Prod.lex Nat.lt_wfRel Nat.lt_wfRel).wf.apply (expansionMeasure root visit)
  generalize same : expansionMeasure root visit = measure at founded
  induction founded generalizing visit with
  | intro measure _ ih =>
      refine .intro visit fun inner calls => ?_
      obtain ⟨inside, less⟩ := measure_lt_of_calls calls covered
      exact ih _ (same ▸ less) inside rfl

/-- Every chain of calls ends. What a reference leads to is within the document, wherever the
reference stands. -/
theorem acc_expansionCalls (seen : List Text) (value : Value) :
    Acc (fun inner outer => ExpansionCalls root outer inner) (seen, value) := by
  induction value using Value.induction_on_children with
  | step value ih =>
      refine .intro _ fun inner calls => ?_
      cases calls with
      | child _ child => exact ih _ _ child
      | target _ _ leads => exact acc_of_isCovered (isCovered_of_target leads)

/-- References in progress stay in progress. -/
theorem isSuffix_of_calls {outer inner : List Text × Value}
    (run : Relation.ReflTransGen (ExpansionCalls root) outer inner) : outer.1 <:+ inner.1 := by
  induction run with
  | refl => exact List.suffix_rfl
  | tail _ calls ih =>
      cases calls with
      | child => exact ih
      | target => exact ih.trans (List.suffix_cons _ _)

/-- In the expansion of a document only references of the document are in progress, and none of them
twice. -/
theorem inProgress_of_calls {visit : List Text × Value}
    (run : Relation.ReflTransGen (ExpansionCalls root) ([], root) visit) :
    IsCovered root visit.2 ∧ visit.1.Nodup ∧ visit.1 ⊆ all root := by
  induction run with
  | refl => exact ⟨fun _ held => held, List.nodup_nil, List.nil_subset _⟩
  | tail _ calls ih =>
      obtain ⟨covered, distinct, inDocument⟩ := ih
      refine ⟨(measure_lt_of_calls calls covered).1, ?_⟩
      cases calls with
      | child => exact ⟨distinct, inDocument⟩
      | target stands fresh _ =>
          exact ⟨List.nodup_cons.mpr ⟨fresh, distinct⟩, List.cons_subset.mpr
            ⟨covered _ (Import.mem_all_of_ofValue? stands), inDocument⟩⟩

/-! ## Bounded expansions -/

/-- The expansion of a value, if at most `depth` calls are open at a time; `seen` are the references
in progress, the latest first. -/
def expandWithin (root : Value) : Nat → List Text → Value → Attempt Value
  | 0, _, _ => ExceptT.mk none
  | depth + 1, seen, .map entries =>
      match ofEntries? entries with
      | some reference =>
          if seen.contains reference then pure (.map entries)
          else
            match target root reference with
            | .ok found => expandWithin root depth (reference :: seen) found
            | .error failure => throw (.failed failure)
      | none => do
          let copies ← entries.mapM fun (key, inner) => do
            let copy ← expandWithin root depth seen inner
            pure (key, copy)
          pure (.map copies)
  | depth + 1, seen, .list items => do
      let copies ← items.mapM (expandWithin root depth seen)
      pure (.list copies)
  | _ + 1, _, value => pure value

theorem mapError_mapItems (follow : Text → Entries → Except Failure Value) (items : List Value) :
    (mapItems follow items).mapError Abort.failed =
      items.mapM fun item => (mapReferences follow item).mapError Abort.failed := by
  induction items with
  | nil => rfl
  | cons item rest ih =>
      rw [List.mapM_cons, ← ih, mapItems]
      cases mapReferences follow item with
      | error => rfl
      | ok => cases mapItems follow rest <;> rfl

theorem mapError_mapEntries (follow : Text → Entries → Except Failure Value) (entries : Entries) :
    (mapEntries follow entries).mapError Abort.failed =
      entries.mapM fun entry =>
        (mapReferences follow entry.2).mapError Abort.failed >>= fun copy =>
          pure (entry.1, copy) := by
  induction entries with
  | nil => rfl
  | cons entry rest ih =>
      rw [List.mapM_cons, ← ih, mapEntries]
      cases mapReferences follow entry.2 with
      | error => rfl
      | ok => cases mapEntries follow rest <;> rfl

theorem mapError_expandIn_list (seen : List Text) (items : List Value) :
    (expandIn root seen (.list items)).mapError Abort.failed =
      (items.mapM fun item => (expandIn root seen item).mapError Abort.failed) >>= fun copies =>
        pure (.list copies) := by
  simp only [expandIn, expandFrom_eq]
  rw [← mapError_mapItems, mapReferences]
  cases mapItems (inPlaceOf root (remaining root seen)) items <;> rfl

theorem mapError_expandIn_map (seen : List Text) {entries : Entries}
    (plain : ofEntries? entries = none) :
    (expandIn root seen (.map entries)).mapError Abort.failed =
      (entries.mapM fun entry => (expandIn root seen entry.2).mapError Abort.failed >>= fun copy =>
        pure (entry.1, copy)) >>= fun copies => pure (.map copies) := by
  simp only [expandIn, expandFrom_eq]
  rw [← mapError_mapEntries, mapReferences, plain]
  cases mapEntries (inPlaceOf root (remaining root seen)) entries <;> rfl

/-- A depth above the weight suffices, and then the result is that of the expansion. -/
theorem expandWithin_eq {depth : Nat} {seen : List Text} {value : Value}
    (covered : IsCovered root value) (enough : weight root seen value < depth) :
    expandWithin root depth seen value =
      settled ((expandIn root seen value).mapError Abort.failed) := by
  induction depth generalizing seen value with
  | zero => exact absurd enough (Nat.not_lt_zero _)
  | succ depth ih =>
      have inside {position : Nat} {inner : Value} (child : value.child? position = some inner) :
          expandWithin root depth seen inner =
            settled ((expandIn root seen inner).mapError Abort.failed) := by
        have lower := Value.height_lt_of_child? child
        refine ih (fun _ held => covered _ (mem_all_of_child? child held)) ?_
        unfold weight at enough ⊢
        omega
      cases value with
      | map entries =>
          cases stands : ofEntries? entries with
          | some reference =>
              have inDocument := covered _ (mem_all_of_ofEntries? stands)
              rw [expandWithin, stands]
              by_cases inProgress : reference ∈ seen
              · rw [expandIn_of_active stands inProgress]
                exact if_pos (List.contains_iff_mem.mpr inProgress)
              · rw [expandIn_of_fresh stands inDocument inProgress]
                simp only [if_neg (mt List.contains_iff_mem.mp inProgress)]
                cases leads : target root reference with
                | error failure => rfl
                | ok found =>
                    have lighter := weight_target_lt (.map entries) inDocument inProgress leads
                    exact ih (isCovered_of_target leads) (by omega)
          | none =>
              rw [expandWithin, stands, mapError_expandIn_map seen stands]
              change List.mapM (m := Attempt) _ entries >>= _ = _
              rw [mapM_settled]
              · exact settled_bind fun _ => rfl
              · rintro ⟨key, inner⟩ member
                obtain ⟨position, child⟩ := Value.exists_child?_of_mem_entries member
                change expandWithin root depth seen inner >>= _ = _
                rw [inside child]
                exact settled_bind fun _ => rfl
      | list items =>
          rw [expandWithin, mapError_expandIn_list]
          change items.mapM (expandWithin root depth seen) >>= _ = _
          rw [mapM_settled]
          · exact settled_bind fun _ => rfl
          · intro item member
            obtain ⟨position, child⟩ := List.mem_iff_getElem?.mp member
            exact inside child
      | _ =>
          simp only [expandIn, expandFrom_eq, mapReferences]
          rfl

/-- A traversal comes to an end if it does at every element. -/
theorem exists_mapM_settled {α β : Type} {step : α → Attempt β} {list : List α}
    (settles : ∀ element ∈ list, ∃ result, step element = settled result) :
    ∃ result, list.mapM step = settled result := by
  have each (element : α) : ∃ result, element ∈ list → step element = settled result := by
    by_cases member : element ∈ list
    · obtain ⟨result, here⟩ := settles element member
      exact ⟨result, fun _ => here⟩
    · exact ⟨.error .unforeseen, fun listed => absurd listed member⟩
  choose result same using each
  exact ⟨_, mapM_settled same⟩

theorem exists_settled_bind {α β : Type} {attempt : Attempt α} {next : α → Attempt β}
    (settles : ∃ result, attempt = settled result)
    (goesOn : ∀ value, ∃ result, next value = settled result) :
    ∃ result, attempt >>= next = settled result := by
  obtain ⟨result, rfl⟩ := settles
  choose after same using goesOn
  exact ⟨_, settled_bind same⟩

/-- Wherever an expansion begins, it comes to a result. -/
theorem exists_expandWithin_eq {depth : Nat} {seen : List Text} {value : Value}
    (enough : value.height + limit root < depth) :
    ∃ result, expandWithin root depth seen value = settled result := by
  induction depth generalizing seen value with
  | zero => exact absurd enough (Nat.not_lt_zero _)
  | succ depth ih =>
      have inside {position : Nat} {inner : Value} (child : value.child? position = some inner) :
          ∃ result, expandWithin root depth seen inner = settled result := by
        have lower := Value.height_lt_of_child? child
        exact ih (by omega)
      cases value with
      | map entries =>
          cases stands : ofEntries? entries with
          | some reference =>
              rw [expandWithin, stands]
              dsimp only
              split
              · exact ⟨.ok (.map entries), rfl⟩
              · cases leads : target root reference with
                | error failure => exact ⟨.error (.failed failure), rfl⟩
                | ok found =>
                    obtain ⟨_, there⟩ := exists_inner?_of_target leads
                    have within : IsWithin root found :=
                      ⟨isCovered_of_target leads, Value.height_le_of_inner? there⟩
                    have lighter := weight_lt_limit within (reference :: seen)
                    exact ⟨_, expandWithin_eq within.covered (by omega)⟩
          | none =>
              rw [expandWithin, stands]
              refine exists_settled_bind (exists_mapM_settled ?_) fun copies =>
                ⟨.ok (.map copies), rfl⟩
              rintro ⟨key, inner⟩ member
              obtain ⟨position, child⟩ := Value.exists_child?_of_mem_entries member
              exact exists_settled_bind (inside child) fun copy => ⟨.ok (key, copy), rfl⟩
      | list items =>
          rw [expandWithin]
          refine exists_settled_bind (exists_mapM_settled ?_) fun copies => ⟨.ok (.list copies), rfl⟩
          intro item member
          obtain ⟨position, child⟩ := List.mem_iff_getElem?.mp member
          exact inside child
      | _ => exact ⟨.ok _, rfl⟩

/-! ## Documents -/

/-- The recursion of the expansion comes to an end, and to the expansion of the document. -/
structure ExpansionEnds (root : Value) : Prop where
  /-- Along a chain of calls references are only added to those in progress. -/
  grows : ∀ outer inner, Relation.ReflTransGen (ExpansionCalls root) outer inner →
    outer.1 <:+ inner.1
  /-- From the document on, those in progress are distinct references of the document. -/
  bounded : ∀ seen value, Relation.ReflTransGen (ExpansionCalls root) ([], root) (seen, value) →
    seen.Nodup ∧ seen ⊆ all root
  /-- From the document on, a call leaves fewer references or a lower value. -/
  descends : ∀ outer inner, Relation.ReflTransGen (ExpansionCalls root) ([], root) outer →
    ExpansionCalls root outer inner →
    Prod.Lex (· < ·) (· < ·) (expansionMeasure root inner) (expansionMeasure root outer)
  /-- Every chain of calls ends, wherever it begins. -/
  chains : ∀ seen value, Acc (fun inner outer => ExpansionCalls root outer inner) (seen, value)
  /-- The expansion of a value comes to a result with any references in progress. -/
  total : ∀ depth seen value, value.height + limit root < depth →
    ∃ result, expandWithin root depth seen value = settled result
  /-- With the limit for its depth it comes to the expansion of the document. -/
  expands : ∀ depth, limit root ≤ depth →
    expandWithin root depth [] root = settled ((expand root).mapError Abort.failed)

/-- However the references of a document point, its expansion comes to an end. -/
theorem expansionEnds (root : Value) : ExpansionEnds root where
  grows _ _ := isSuffix_of_calls
  bounded _ _ run := (inProgress_of_calls run).2
  descends _ _ run calls := (measure_lt_of_calls calls (inProgress_of_calls run).1).2
  chains := acc_expansionCalls
  total _ _ _ := exists_expandWithin_eq
  expands _ enough := by
    have lighter := weight_lt_limit (Import.isWithin_root root) []
    rw [expand_eq]
    exact expandWithin_eq (fun _ held => held) (Nat.lt_of_lt_of_le lighter enough)

/-- Two lists that refer to each other are entered once each. -/
example :
    expand (.map [(.str "left", .list [.map [(.str "$ref", .str "#/right")]]),
      (.str "right", .list [.map [(.str "$ref", .str "#/left")]])]) =
    .ok (.map [(.str "left", .list [.list [.list [.map [(.str "$ref", .str "#/right")]]]]),
      (.str "right", .list [.list [.list [.map [(.str "$ref", .str "#/left")]]]])]) := by
  with_unfolding_all rfl

end ApiForge.Reference
