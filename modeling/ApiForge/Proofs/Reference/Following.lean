import ApiForge.Proofs.Reference.KeptReferences

/-!
# Following and expanding

References can be followed one by one, or the document can be expanded first.
What a value leads to in the document is expanded to what its expansion leads to
in the result: the expansion has followed the references already, or it has kept
one, which then leads to the expansion of its target.
-/

namespace ApiForge.Reference

variable {root result : Value}

/-- No mapping in the value stands for a reference. -/
def IsFree (value : Value) : Prop :=
  all value = []

/-- No reference stands for the value, and none is in a pair, which the expansion does not go
into. -/
structure IsPlain (value : Value) : Prop where
  notReference : ofValue? value = none
  pair : ∀ first second, value = .pair first second → IsFree first ∧ IsFree second

/-- The second value is what the expansion of the document makes of the first one. -/
inductive IsExpanded (root : Value) : Value → Value → Prop
  | reached {active : List Text} {value expanded : Value}
      (known : IsExpandedIn root active value expanded) : IsExpanded root value expanded
  | free {value : Value} (free : IsFree value) : IsExpanded root value value

/-! ## Free values -/

theorem IsFree.child {value inner : Value} {position : Nat} (free : IsFree value)
    (child : value.child? position = some inner) : IsFree inner :=
  List.eq_nil_iff_forall_not_mem.mpr fun _ member =>
    List.eq_nil_iff_forall_not_mem.mp free _ (mem_all_of_child? child member)

theorem IsFree.notReference {value : Value} (free : IsFree value) : ofValue? value = none := by
  cases value with
  | map entries =>
      rw [IsFree, all, List.append_eq_nil_iff] at free
      exact Option.toList_eq_nil_iff.mp free.1
  | _ => rfl

theorem mapReferences_of_isFree (follow : Text → Entries → Except Failure Value) {value : Value}
    (free : IsFree value) : mapReferences follow value = .ok value := by
  induction value using Value.induction_on_children with
  | step value ih =>
      have inside : ∀ position inner, value.child? position = some inner →
          mapReferences follow inner = .ok inner :=
        fun position inner child => ih position inner child (free.child child)
      cases value with
      | map entries =>
          have none : ofEntries? entries = none := free.notReference
          have same : ∀ entry ∈ entries, mapReferences follow entry.2 = .ok entry.2 := by
            intro entry member
            obtain ⟨position, child⟩ := Value.exists_child?_of_mem_entries member
            exact inside position entry.2 child
          simp only [mapReferences, none, mapEntries_eq_self same]
          rfl
      | list items =>
          have same : ∀ item ∈ items, mapReferences follow item = .ok item := by
            intro item member
            obtain ⟨position, child⟩ := List.mem_iff_getElem?.mp member
            exact inside position item child
          simp only [mapReferences, mapItems_eq_self same]
          rfl
      | _ => rfl

/-- The expansion changes no free value. -/
theorem IsExpanded.eq_of_isFree {value expanded : Value} (known : IsExpanded root value expanded)
    (free : IsFree value) : expanded = value := by
  cases known with
  | free _ => rfl
  | reached known =>
      have computed := known.computed
      rw [expandIn, expandFrom_eq, mapReferences_of_isFree _ free] at computed
      exact (Except.ok.inj computed).symm

/-! ## Copies -/

theorem IsExpanded.copy {value expanded : Value} (known : IsExpanded root value expanded)
    (plain : ofValue? value = none) : Value.IsCopy (IsExpanded root) value expanded := by
  cases known with
  | reached known => exact (known.copy plain).mono fun _ _ here => .reached here
  | free free =>
      cases value with
      | map entries =>
          refine .map (List.forall₂_same.mpr fun entry member => ⟨rfl, .free ?_⟩)
          obtain ⟨position, child⟩ := Value.exists_child?_of_mem_entries member
          exact free.child child
      | list items =>
          refine .list (List.forall₂_same.mpr fun item member => .free ?_)
          obtain ⟨position, child⟩ := List.mem_iff_getElem?.mp member
          exact free.child child
      | scalar value => exact .scalar value
      | set members => exact .set members
      | pair first second => exact .pair first second

/-- The expansion of a value with a plain reference key stands for no reference. -/
theorem IsExpanded.notReference {value expanded : Value} (known : IsExpanded root value expanded)
    (plain : ofValue? value = none)
    (key : ∀ inner, value.field? "$ref" = some inner → ofValue? inner = none) :
    ofValue? expanded = none := by
  cases known.copy plain with
  | @map entries copies inside =>
      change (Entries.field? "$ref" copies).bind Value.text? = none
      have none : (Entries.field? "$ref" entries).bind Value.text? = none := plain
      have here := inside.field? "$ref"
      cases found : Entries.field? "$ref" entries with
      | none => rw [eq_none_of_rel here found, Option.bind_none]
      | some inner =>
          obtain ⟨copy, there, expanded⟩ := exists_of_rel_some here found
          rw [found, Option.bind_some] at none
          rw [there, Option.bind_some, ← (expanded.copy (key inner found)).text?, none]
  | _ => rfl

/-! ## Following -/

theorem exists_map_of_ofValue? {value : Value} {reference : Text}
    (stands : ofValue? value = some reference) : ∃ entries, value = .map entries := by
  cases value with
  | map entries => exact ⟨entries, rfl⟩
  | _ => cases stands

theorem followFrom_of_plain {pending : List Text} {value : Value} (plain : ofValue? value = none) :
    followFrom root pending value = .ok value := by
  rw [followFrom]
  split
  · rfl
  · next standing =>
      rw [plain] at standing
      cases standing

theorem exists_of_followFrom {pending : List Text} {value found : Value} {reference : Text}
    (stands : ofValue? value = some reference)
    (success : followFrom root pending value = .ok found) :
    reference ∈ pending ∧ ∃ next, target root reference = .ok next ∧
      followFrom root (pending.erase reference) next = .ok found := by
  rw [followFrom] at success
  split at success
  · next standing =>
      rw [stands] at standing
      cases standing
  · next standing =>
      cases stands.symm.trans standing
      split at success
      · next member =>
          split at success
          · next leads => exact ⟨member, _, leads, success⟩
          · cases success
      · cases success

theorem ofValue?_of_followFrom {pending : List Text} {value found : Value}
    (success : followFrom root pending value = .ok found) : ofValue? found = none := by
  cases standing : ofValue? value with
  | none =>
      rw [followFrom_of_plain standing] at success
      cases success
      exact standing
  | some reference =>
      obtain ⟨member, next, _, success⟩ := exists_of_followFrom standing success
      have := length_erase_lt member
      exact ofValue?_of_followFrom success
termination_by pending.length

/-- Following the references of a value, the expansion comes to what they lead to, unless it keeps
one that was in progress from the start. -/
theorem IsExpandedIn.follow {active pending : List Text} {value expanded found : Value}
    (known : IsExpandedIn root active value expanded) (distinct : pending.Nodup)
    (success : followFrom root pending value = .ok found) :
    IsExpanded root found expanded ∨
      ∃ reference ∈ pending, reference ∈ active ∧ IsKept root reference ∧
        ofValue? expanded = some reference ∧
        ∃ next rest, target root reference = .ok next ∧ rest.Nodup ∧
          followFrom root rest next = .ok found := by
  cases standing : ofValue? value with
  | none =>
      rw [followFrom_of_plain standing] at success
      cases success
      exact .inl (.reached known)
  | some reference =>
      obtain ⟨entries, rfl⟩ := exists_map_of_ofValue? standing
      obtain ⟨member, next, leads, success⟩ := exists_of_followFrom standing success
      obtain ⟨⟨place, reached⟩, computed⟩ := known
      by_cases inProgress : reference ∈ active
      · rw [expandIn_of_active standing inProgress] at computed
        cases computed
        exact .inr ⟨reference, member, inProgress,
          ⟨place, active, entries, reached, standing, inProgress⟩, standing, next,
          pending.erase reference, leads, distinct.erase _, success⟩
      · rw [expandIn_of_fresh standing (reached.mem_all standing) inProgress, leads] at computed
        have onward : IsExpandedIn root (reference :: active) next expanded :=
          ⟨⟨place, reached.follow standing inProgress leads⟩, computed⟩
        have := length_erase_lt member
        rcases onward.follow (distinct.erase _) success with done | ⟨kept, inRest, before, others⟩
        · exact .inl done
        · -- The reference just followed is no longer pending, so another one was kept.
          obtain ⟨other, inPending⟩ := (distinct.mem_erase_iff).mp inRest
          exact .inr ⟨kept, inPending, (List.mem_cons.mp before).resolve_left other, others⟩
termination_by pending.length

/-- Every reference that the expansion keeps has a plain path. -/
def KeepsPlainPaths (root : Value) : Prop :=
  ∀ reference, IsKept root reference → IsPlainPath root reference

theorem keepsPlainPaths_of_standAlone (alone : StandAlone root) : KeepsPlainPaths root :=
  fun _ kept => kept.isPlainPath alone

theorem keepsPlainPaths_of_all (plain : ∀ reference ∈ all root, IsPlainPath root reference) :
    KeepsPlainPaths root := by
  rintro reference ⟨place, active, entries, reached, stands, _⟩
  exact plain reference (reached.mem_all stands)

/-- What a value leads to in the document is expanded to what its expansion leads to in the
result. -/
theorem IsExpanded.follow (success : expand root = .ok result) (paths : KeepsPlainPaths root)
    {pending others : List Text} (distinct : pending.Nodup) {value expanded found led : Value}
    (known : IsExpanded root value expanded)
    (followed : followFrom root pending value = .ok found)
    (inResult : followFrom result others expanded = .ok led)
    (key : ∀ inner, found.field? "$ref" = some inner → ofValue? inner = none) :
    IsExpanded root found led := by
  have plain := ofValue?_of_followFrom followed
  -- A value that the expansion has made of what is found stands for no reference.
  have ended : ∀ {pending : List Text} {expanded : Value}, IsExpanded root found expanded →
      followFrom result pending expanded = .ok led → IsExpanded root found led := by
    intro pending expanded made inResult
    rw [followFrom_of_plain (made.notReference plain key)] at inResult
    cases inResult
    exact made
  cases known with
  | free free =>
      rw [followFrom_of_plain free.notReference] at followed
      cases followed
      exact ended (.free free) inResult
  | reached known =>
      rcases known.follow distinct followed with
        made | ⟨reference, _, _, kept, stands, next, rest, leads, distinct, followed⟩
      · exact ended made inResult
      · obtain ⟨_, _, there, inResult⟩ := exists_of_followFrom stands inResult
        obtain ⟨copy, copied, known⟩ :=
          exists_target_of_isPlainPath success (paths reference kept) leads
        cases copied.symm.trans there
        rcases known.follow distinct followed with made | ⟨_, _, none, _⟩
        · exact ended made inResult
        · cases none

end ApiForge.Reference
