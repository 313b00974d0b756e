import ApiForge.Proofs.Reference.Copies
import ApiForge.Proofs.Reference.CyclePoints

/-!
# Following kept references

A reference that the expansion keeps has to be followed in the result. Its steps
lead through copies, unless one of them goes into what stands beside a
reference: there the result has the target of that reference instead. So a kept
reference whose steps avoid such mappings names in the result the expansion of
what it names in the document, and another one may name nothing. Where nothing is
beside references all kept ones are of the first kind.
-/

namespace ApiForge.Reference

variable {root result : Value}

/-- The steps go into no mapping that stands for a reference. -/
def StepsPlainly : Value → List Text → Prop
  | _, [] => True
  | current, segment :: rest =>
      ofValue? current = none ∧
        ∀ next, step current segment = .ok next → StepsPlainly next rest

/-- The steps of the reference go into no mapping that stands for a reference. -/
def IsPlainPath (root : Value) (reference : Text) : Prop :=
  ∀ segments, segments? reference = some segments → StepsPlainly root segments

instance decidableStepsPlainly :
    (current : Value) → (segments : List Text) → Decidable (StepsPlainly current segments)
  | _, [] => .isTrue trivial
  | current, segment :: rest =>
      have (next : Value) := decidableStepsPlainly next rest
      inferInstanceAs (Decidable (ofValue? current = none ∧
        ∀ next, step current segment = .ok next → StepsPlainly next rest))

instance (root : Value) : DecidablePred (IsPlainPath root) := fun reference =>
  inferInstanceAs (Decidable (∀ segments, segments? reference = some segments →
    StepsPlainly root segments))

/-- The expansion comes to the reference while it is in progress, and keeps it. -/
def IsKept (root : Value) (reference : Text) : Prop :=
  ∃ place active entries, Reaches root place active (.map entries) ∧
    ofEntries? entries = some reference ∧ reference ∈ active

/-! ## Steps in copies -/

theorem rel_itemAt? {related : Value → Value → Prop} {items copies : List Value}
    (inside : List.Forall₂ related items copies) (position : Int) :
    Option.Rel related (itemAt? items position) (itemAt? copies position) := by
  cases position with
  | ofNat index => exact rel_getElem? inside index
  | negSucc index => exact rel_getElem? (List.forall₂_reverse_iff.mpr inside) index

/-- A step into a value can be made into its copy. -/
theorem exists_step_of_isCopy {related : Value → Value → Prop} {current copy next : Value}
    (alike : Value.IsCopy related current copy) {segment : Text}
    (success : step current segment = .ok next) :
    ∃ copied, step copy segment = .ok copied ∧ related next copied := by
  cases alike with
  | map inside =>
      simp only [step] at success ⊢
      split at success
      · next value found =>
          cases success
          obtain ⟨copied, there, here⟩ := exists_of_rel_some (inside.field? segment) found
          exact ⟨copied, by rw [there], here⟩
      · cases success
  | list inside =>
      simp only [step] at success ⊢
      split at success
      · next value found =>
          cases success
          obtain ⟨position, counted, found⟩ := Option.bind_eq_some_iff.mp found
          obtain ⟨copied, there, here⟩ := exists_of_rel_some (rel_itemAt? inside position) found
          exact ⟨copied, by rw [counted, Option.bind_some, there], here⟩
      · cases success
  | _ => cases success

/-- Steps that go into no mapping with a reference lead to the expansion of what they lead to. -/
theorem exists_walk_of_isExpandedIn {active : List Text} {current copy found : Value}
    {segments : List Text} (known : IsExpandedIn root active current copy)
    (plainly : StepsPlainly current segments) (success : walk current segments = .ok found) :
    ∃ expanded, walk copy segments = .ok expanded ∧ IsExpandedIn root active found expanded := by
  induction segments generalizing current copy with
  | nil =>
      cases success
      exact ⟨copy, rfl, known⟩
  | cons segment rest ih =>
      obtain ⟨plain, onward⟩ := plainly
      rw [walk] at success
      split at success
      · next next stepped =>
          obtain ⟨copied, there, here⟩ := exists_step_of_isCopy (known.copy plain) stepped
          rw [walk, there]
          exact ih here (onward next stepped) success
      · cases success

/-- A reference with a plain path names in the result the expansion of what it names in the
document. -/
theorem exists_target_of_isPlainPath (success : expand root = .ok result) {reference : Text}
    (path : IsPlainPath root reference) {found : Value}
    (leads : target root reference = .ok found) :
    ∃ expanded, target result reference = .ok expanded ∧ IsExpandedIn root [] found expanded := by
  unfold target at leads ⊢
  split at leads
  · cases leads
  · next segments internal =>
      split at leads
      · next value walked =>
          cases leads
          obtain ⟨expanded, there, known⟩ := exists_walk_of_isExpandedIn
            (IsExpandedIn.start success) (path segments internal) walked
          exact ⟨expanded, by rw [there], known⟩
      · cases leads

/-! ## Kept references -/

/-- What is in progress resolves. -/
theorem Reaches.exists_target {place : Place} {active : List Text} {value : Value}
    (reached : Reaches root place active value) {reference : Text}
    (inProgress : reference ∈ active) : ∃ found, target root reference = .ok found := by
  induction reached with
  | start => cases inProgress
  | follow _ _ _ leads ih =>
      rcases List.mem_cons.mp inProgress with rfl | before
      · exact ⟨_, leads⟩
      · exact ih before
  | enter _ _ _ ih => exact ih inProgress

theorem IsKept.exists_target {reference : Text} (kept : IsKept root reference) :
    ∃ found, target root reference = .ok found := by
  obtain ⟨place, active, entries, reached, _, inProgress⟩ := kept
  exact reached.exists_target inProgress

/-- A kept reference whose steps go into no mapping that stands for a reference resolves in the
result, to the expansion of what it names in the document. -/
theorem target_of_isKept (success : expand root = .ok result) {reference : Text}
    (kept : IsKept root reference) (path : IsPlainPath root reference) :
    ∃ found expanded, target root reference = .ok found ∧
      target result reference = .ok expanded ∧ expandIn root [] found = .ok expanded := by
  obtain ⟨found, leads⟩ := kept.exists_target
  obtain ⟨expanded, there, known⟩ := exists_target_of_isPlainPath success path leads
  exact ⟨found, expanded, leads, there, known.computed⟩

/-- The reference to the nodes of a tree is kept, and names the expanded node. -/
theorem target_of_treeDocument :
    IsKept treeDocument "#/node" ∧ IsPlainPath treeDocument "#/node" ∧
      expand treeDocument = .ok expandedTree ∧
      ∃ expanded, target expandedTree "#/node" = .ok expanded := by
  have tree : expand treeDocument = .ok expandedTree := by with_unfolding_all rfl
  have kept : IsKept treeDocument "#/node" :=
    ⟨[0, 0], _, _, .enter (.follow (.enter .start rfl rfl) rfl (by simp) rfl) rfl rfl, rfl,
      List.mem_cons_self⟩
  have path : IsPlainPath treeDocument "#/node" := by
    intro segments internal
    cases internal
    exact ⟨rfl, fun _ _ => trivial⟩
  obtain ⟨_, expanded, _, there, _⟩ := target_of_isKept tree kept path
  exact ⟨kept, path, tree, expanded, there⟩

/-! ## References that stand alone -/

/-- Nothing is beside a reference in the document. -/
def StandAlone (root : Value) : Prop :=
  ∀ place entries reference, root.inner? place = some (.map entries) →
    ofEntries? entries = some reference → entries = [(.str "$ref", .str reference)]

/-- A step into a mapping with nothing beside the reference comes to the reference. -/
theorem eq_of_step_of_alone {reference segment : Text} {next : Value}
    (stepped : step (.map [(.str "$ref", .str reference)]) segment = .ok next) :
    next = .str reference := by
  simp only [step] at stepped
  split at stepped
  · next value found =>
      cases stepped
      exact (Prod.mk.inj (List.mem_singleton.mp (Entries.mem_of_field? found))).2
  · cases stepped

/-- Steps that end at no text go into no mapping with a reference, if references stand alone. -/
theorem stepsPlainly_of_standAlone (alone : StandAlone root) {place : Place}
    {current found : Value} {segments : List Text} (there : root.inner? place = some current)
    (success : walk current segments = .ok found) (noText : ∀ text, found ≠ .str text) :
    StepsPlainly current segments := by
  induction segments generalizing place current with
  | nil => trivial
  | cons segment rest ih =>
      rw [walk] at success
      split at success
      · next next stepped =>
          constructor
          · by_contra stands
            obtain ⟨reference, stands⟩ := Option.ne_none_iff_exists'.mp stands
            cases current with
            | map entries =>
                obtain rfl := alone place entries reference there stands
                obtain rfl := eq_of_step_of_alone stepped
                -- The steps end here, since there are none into a text.
                cases rest with
                | nil => exact noText reference (Except.ok.inj success).symm
                | cons _ _ => cases success
            | _ => cases stands
          · intro other same
            cases stepped.symm.trans same
            obtain ⟨position, child⟩ := exists_child?_of_step stepped
            have inside : root.inner? (place ++ [position]) = some next := by
              rw [Value.inner?_concat, there]
              exact child
            exact ih inside success
      · cases success

/-- While a reference to a text is in progress, the expansion is at this text. -/
theorem Reaches.eq_of_target {place : Place} {active : List Text} {value : Value}
    (reached : Reaches root place active value) {reference text : Text}
    (inProgress : reference ∈ active) (leads : target root reference = .ok (.str text)) :
    value = .str text := by
  induction reached with
  | start => cases inProgress
  | follow _ _ _ found ih =>
      rcases List.mem_cons.mp inProgress with rfl | before
      · exact Except.ok.inj (found.symm.trans leads)
      · cases ih before
  | enter _ _ child ih =>
      obtain rfl := ih inProgress
      cases child

/-- In a document whose references stand alone, every kept reference has a plain path. -/
theorem IsKept.isPlainPath (alone : StandAlone root) {reference : Text}
    (kept : IsKept root reference) : IsPlainPath root reference := by
  obtain ⟨place, active, entries, reached, _, inProgress⟩ := kept
  obtain ⟨found, leads⟩ := reached.exists_target inProgress
  have noText : ∀ text, found ≠ .str text := by
    rintro text rfl
    cases reached.eq_of_target inProgress leads
  have atRoot : root.inner? [] = some root := rfl
  intro segments internal
  unfold target at leads
  rw [internal] at leads
  split at leads
  · cases leads
  · next others same =>
      cases same
      split at leads
      · next value walked =>
          cases leads
          exact stepsPlainly_of_standAlone alone atRoot walked noText
      · cases leads

/-! ## What stands beside a reference -/

/-- A description with the schema of a tree beside the reference of another schema. -/
def namesDocument (base : Value) : Value :=
  let tree : Text := "#/components/schemas/Names/$defs/Tree"
  .map [
    (.str "openapi", .str "3.1.0".toList),
    (.str "paths", .map [(.str "/trees", .map [(.str "get", .map [
      (.str "operationId", .str "listTrees".toList),
      (.str "parameters", .list [.map [
        (.str "name", .str "path".toList), (.str "in", .str "query".toList),
        (.str "schema", referenceTo tree)]]),
      (.str "responses", .map [])])])]),
    (.str "components", .map [(.str "schemas", .map [
      (.str "Names", .map [
        (.str "$ref", .str "#/components/schemas/Base".toList),
        (.str "$defs", .map [(.str "Tree", .map [
          (.str "type", .str "array".toList), (.str "items", referenceTo tree)])])]),
      (.str "Base", base)])])]

theorem isKept_of_namesDocument (base : Value) :
    IsKept (namesDocument base) "#/components/schemas/Names/$defs/Tree" := by
  have atParameter : Reaches (namesDocument base) [1, 0, 0, 1, 0] []
      (.map [(.str "name", .str "path".toList), (.str "in", .str "query".toList),
        (.str "schema", referenceTo "#/components/schemas/Names/$defs/Tree")]) :=
    .enter (.enter (.enter (.enter (.enter .start rfl rfl) rfl rfl) rfl rfl) rfl rfl) rfl rfl
  have leads : target (namesDocument base) "#/components/schemas/Names/$defs/Tree" =
      .ok (.map [(.str "type", .str "array".toList),
        (.str "items", referenceTo "#/components/schemas/Names/$defs/Tree")]) := rfl
  have atReference : Reaches (namesDocument base) [1, 0, 0, 1, 0, 2] []
      (referenceTo "#/components/schemas/Names/$defs/Tree") := atParameter.enter rfl rfl
  exact ⟨[1, 0, 0, 1, 0, 2, 1], _, _,
    (atReference.follow rfl List.not_mem_nil leads).enter rfl rfl, rfl, List.mem_cons_self⟩

/-- The expansion puts another schema in the place of the one that a kept reference goes through. -/
theorem not_target_of_namesDocument :
    ∃ result, expand (namesDocument (.map [(.str "type", .str "string".toList)])) = .ok result ∧
      IsKept (namesDocument (.map [(.str "type", .str "string".toList)]))
        "#/components/schemas/Names/$defs/Tree" ∧
      target result "#/components/schemas/Names/$defs/Tree" =
        .error (.unresolvable "#/components/schemas/Names/$defs/Tree" (.noKey "$defs")) :=
  ⟨_, by with_unfolding_all rfl, isKept_of_namesDocument _, by with_unfolding_all rfl⟩

end ApiForge.Reference
