import ApiForge.Model.Api
import Mathlib.Data.List.Perm.Basic

/-!
# Groups of operations

The groups of an API take its operations apart: every operation is in one group,
in which the order of the operations is kept, and the groups stand in the order
in which the operations bring them up.
-/

namespace ApiForge

/-- The groups hold the operations, each once. A group has all operations of its name in their
order, and the first operations of the groups stand in the order of the groups. -/
structure IsGrouping (operations : List Operation) (groups : List (Text × List Operation)) :
    Prop where
  complete : (groups.flatMap (·.2)).Perm operations
  ordered : ∀ group ∈ groups, group.2 = operations.filter (·.group == group.1)
  filled : ∀ group ∈ groups, group.2 ≠ []
  distinct : (groups.map (·.1)).Nodup
  firstSeen : (groups.filterMap (·.2.head?)).Sublist operations

namespace Api

/-- The operations that are in the group of this name. -/
def inGroup (operations : List Operation) (name : Text) : List Operation :=
  operations.filter fun operation => operation.group == name

theorem inGroup_cons_self (operation : Operation) (rest : List Operation) :
    inGroup (operation :: rest) operation.group = operation :: inGroup rest operation.group :=
  List.filter_cons_of_pos (beq_iff_eq.mpr rfl)

theorem inGroup_cons_of_ne {operation : Operation} {name : Text} (rest : List Operation)
    (other : operation.group ≠ name) : inGroup (operation :: rest) name = inGroup rest name :=
  List.filter_cons_of_neg fun same => other (beq_iff_eq.mp same)

/-- Distinct names under which all operations are give all operations, each once. -/
theorem flatMap_inGroup_perm {names : List Text} (distinct : names.Nodup)
    {operations : List Operation} (named : ∀ operation ∈ operations, operation.group ∈ names) :
    (names.flatMap (inGroup operations)).Perm operations := by
  induction operations with
  | nil => simp [inGroup]
  | cons operation rest ih =>
      have others := ih fun other member => named other (List.mem_cons_of_mem _ member)
      obtain ⟨before, after, split⟩ := List.append_of_mem (named operation List.mem_cons_self)
      rw [split] at distinct others ⊢
      have apart : ∀ name ∈ before ++ after, operation.group ≠ name := by
        have alone := (List.nodup_cons.mp (List.perm_middle.nodup_iff.mp distinct)).1
        rintro name member rfl
        exact alone member
      have unchanged : ∀ part ⊆ before ++ after,
          part.flatMap (inGroup (operation :: rest)) = part.flatMap (inGroup rest) := by
        intro part inside
        exact List.flatMap_congr fun name member =>
          inGroup_cons_of_ne rest (apart name (inside member))
      rw [List.flatMap_append, List.flatMap_cons, inGroup_cons_self,
        unchanged before (List.subset_append_left before after),
        unchanged after (List.subset_append_right before after), List.cons_append]
      rw [List.flatMap_append, List.flatMap_cons] at others
      exact List.perm_middle.trans (others.cons operation)

/-- The first operations of the groups stand in the order of the groups. -/
theorem firsts_sublist (operations : List Operation) :
    ((Text.distinct (operations.map (·.group))).filterMap fun name =>
      (inGroup operations name).head?).Sublist operations := by
  induction operations with
  | nil => exact List.Sublist.refl []
  | cons operation rest ih =>
      rw [List.map_cons, Text.distinct,
        List.filterMap_cons_some (by rw [inGroup_cons_self]; rfl)]
      refine List.Sublist.cons_cons operation (List.Sublist.trans ?_ ih)
      have unchanged : ∀ name ∈ (Text.distinct (rest.map (·.group))).filter (· != operation.group),
          (inGroup (operation :: rest) name).head? = (inGroup rest name).head? := by
        intro name member
        have other := bne_iff_ne.mp (List.mem_filter.mp member).2
        rw [inGroup_cons_of_ne rest fun same => other same.symm]
      rw [List.filterMap_congr unchanged]
      exact List.filter_sublist.filterMap _

theorem isGrouping (api : Api) : IsGrouping api.operations api.groups := by
  have parts : api.groups.flatMap (·.2) = api.groupNames.flatMap (inGroup api.operations) :=
    List.flatMap_map ..
  have named : ∀ operation ∈ api.operations, operation.group ∈ api.groupNames :=
    fun operation member => Text.mem_distinct.mpr (List.mem_map.mpr ⟨operation, member, rfl⟩)
  refine ⟨?_, ?_, ?_, ?_, ?_⟩
  · rw [parts]
    exact flatMap_inGroup_perm (Text.distinct_nodup _) named
  · intro group member
    obtain ⟨name, _, rfl⟩ := List.mem_map.mp member
    rfl
  · intro group member
    obtain ⟨name, listed, rfl⟩ := List.mem_map.mp member
    obtain ⟨operation, inApi, rfl⟩ := List.mem_map.mp (Text.mem_distinct.mp listed)
    exact List.ne_nil_of_mem (List.mem_filter.mpr ⟨inApi, beq_iff_eq.mpr rfl⟩)
  · rw [groups, List.map_map]
    exact (List.map_id api.groupNames).symm ▸ Text.distinct_nodup _
  · rw [groups, List.filterMap_map]
    exact firsts_sublist api.operations

/-- An operation in a group has the group's name. -/
theorem group_of_mem {api : Api} {group : Text × List Operation} (listed : group ∈ api.groups)
    {operation : Operation} (member : operation ∈ group.2) : operation.group = group.1 := by
  rw [api.isGrouping.ordered group listed] at member
  exact beq_iff_eq.mp (List.mem_filter.mp member).2

end Api

end ApiForge
