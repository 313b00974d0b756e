import ApiForge.Proofs.Import.OperationSites

/-!
# Names of parameters

The parameters of an operation are those of its path whose names none of its own
has, and then its own. So two parameters with one name stand in one list: the
lists are compared with each other but neither with itself.
-/

namespace ApiForge.Import

variable {source : Source}

/-- The place of a parameter, if it is one that a call can fill. -/
def callLocation? (entries : Entries) : Option Location :=
  match Value.fieldOrNull "in" entries with
  | .scalar (.str name) => Location.ofName? name
  | _ => none

/-- The names of the declared parameters that stand at wanted places. -/
def namesAt (wanted : Location → Bool) (declared : List Entries) : List Text :=
  (declared.filter fun entries => (callLocation? entries).any wanted).map (displayedField "name")

/-- The two parameters have one name; names that are no scalars are not compared. -/
def haveSameName (ofOperation ofPath : Entries) : Bool :=
  (comparable? (nameOf ofOperation)).any fun given =>
    (comparable? (nameOf ofPath)).any fun name => given.isSameKey name

/-- The parameters of a path that no parameter of the operation overrides. -/
def survivors (ofPath ofOperation : List Entries) : List Entries :=
  ofPath.filter fun entries => !ofOperation.any (haveSameName · entries)

/-- The parameters that a list declares, references followed. -/
def declaredIn (source : Source) (list : Value) : Except Abort (List Entries) := do
  resolvedMaps source (← foreseen list.elements?)

/-! ## Merging -/

theorem isKept_eq {overridden : List Scalar} {ofOperation : List Entries} {entries : Entries}
    {answer : Bool} (names : ofOperation.map nameOf = overridden.map .scalar)
    (success : isKept overridden entries = .ok answer) :
    (!ofOperation.any (haveSameName · entries)) = answer := by
  have compared : ∀ name, nameOf entries = .scalar name →
      ofOperation.any (haveSameName · entries) = overridden.any (·.isSameKey name) := by
    intro name given
    have moved := congrArg (List.any · fun value : Value =>
      (comparable? value).any (·.isSameKey name)) names
    rw [List.any_map, List.any_map] at moved
    unfold haveSameName
    rw [given]
    exact moved
  have apart : comparable? (nameOf entries) = none →
      ofOperation.any (haveSameName · entries) = false := by
    intro none
    rw [List.any_eq_false]
    intro other _
    unfold haveSameName
    rw [none]
    cases comparable? (nameOf other) <;> simp
  unfold isKept at success
  cases given : nameOf entries with
  | scalar name =>
      rw [given] at success
      rw [compared name given]
      exact Except.ok.inj success
  | set members =>
      rw [given] at success
      rw [apart (given ▸ rfl)]
      exact Except.ok.inj success
  | list _ | map _ | pair _ _ =>
      rw [given] at success
      cases success

/-- The merged parameters are the surviving ones of the path and those of the operation. -/
theorem merged_eq {shared own : Value} {merged : List Entries}
    (success : mergedParameters source shared own = .ok merged) :
    ∃ ofPath ofOperation, declaredIn source shared = .ok ofPath ∧
      declaredIn source own = .ok ofOperation ∧
      merged = survivors ofPath ofOperation ++ ofOperation := by
  obtain ⟨sharedNodes, sharedListed, success⟩ := Success.of_bind success
  obtain ⟨ofPath, sharedFound, success⟩ := Success.of_bind success
  obtain ⟨ownNodes, ownListed, success⟩ := Success.of_bind success
  obtain ⟨ofOperation, ownFound, success⟩ := Success.of_bind success
  obtain ⟨overridden, named, success⟩ := Success.of_bind success
  obtain ⟨kept, filtered, success⟩ := Success.of_bind success
  cases success
  refine ⟨ofPath, ofOperation, ?_, ?_, ?_⟩
  · unfold declaredIn
    rw [sharedListed]
    exact sharedFound
  · unfold declaredIn
    rw [ownListed]
    exact ownFound
  · have names : overridden.map .scalar = ofOperation.map nameOf :=
      Success.map_eq_of_mapM .scalar nameOf named fun entries name comparable => by
        have given := Success.of_foreseen comparable
        cases value : nameOf entries <;> rw [value] at given <;> cases given
        rfl
    rw [Success.filter_of_filterM _ filtered fun entries answer => isKept_eq names.symm]
    rfl

/-! ## Parameters -/

theorem locationOf_eq {entries : Entries} {location : Option Location}
    (success : locationOf entries = .ok location) : location = callLocation? entries := by
  unfold locationOf at success
  unfold callLocation?
  split at success
  · next name given =>
      rw [given]
      exact (Except.ok.inj success).symm
  · next scalar other given =>
      rw [given]
      cases scalar with
      | str name => exact absurd rfl (other name)
      | _ => exact (Except.ok.inj success).symm
  · next given =>
      rw [given]
      exact (Except.ok.inj success).symm
  · cases success

theorem parameterAt_spec {location : Location} {entries : Entries} {parameter : Parameter}
    (success : parameterAt source location entries = .ok parameter) :
    parameter.name = displayedField "name" entries ∧ parameter.location = location := by
  obtain ⟨typed, _, success⟩ := Success.of_bind success
  dsimp only at success
  split at success
  all_goals
    obtain ⟨itemsType, _, success⟩ := Success.of_bind success
    obtain ⟨_, description, formatted, _, rfl⟩ := Success.of_and (Success.of_orAbort success)
    obtain ⟨format, _, rfl⟩ := Success.of_checkedMap formatted
    exact ⟨rfl, rfl⟩

/-- The imported parameters have the names that the merged ones declare, at every kind of place. -/
theorem names_of_parametersOf {merged : List Entries} {parameters : List Parameter}
    (success : parametersOf source merged = .ok parameters) (wanted : Location → Bool) :
    (parameters.filter fun parameter => wanted parameter.location).map (·.name) =
      namesAt wanted merged := by
  obtain ⟨found, traversed, success⟩ := Success.of_bind success
  cases success
  have steps := Success.forall₂_of_mapM traversed
  clear traversed success
  unfold namesAt
  induction steps with
  | nil => rfl
  | @cons entries result rest results here _ ih =>
      obtain ⟨location, located, here⟩ := Success.of_bind here
      have place := locationOf_eq located
      cases location with
      | none =>
          cases here
          rw [List.filter_cons_of_neg (by simp [← place])]
          exact ih
      | some location =>
          obtain ⟨parameter, imported, rfl⟩ := Success.of_map here
          obtain ⟨name, same⟩ := parameterAt_spec imported
          rw [List.filterMap_cons_some (f := id) rfl, List.filter_cons, List.filter_cons, ← place,
            same, Option.any_some]
          split
          · rw [List.map_cons, List.map_cons, ih, name]
          · exact ih

/-! ## The two lists -/

theorem namesAt_append (wanted : Location → Bool) (first second : List Entries) :
    namesAt wanted (first ++ second) = namesAt wanted first ++ namesAt wanted second := by
  unfold namesAt
  rw [List.filter_append, List.map_append]

theorem mem_survivors_iff {ofPath ofOperation : List Entries} {entries : Entries} :
    entries ∈ survivors ofPath ofOperation ↔
      entries ∈ ofPath ∧ ∀ own ∈ ofOperation, haveSameName own entries = false := by
  unfold survivors
  rw [List.mem_filter, Bool.not_eq_true', List.any_eq_false]
  simp only [Bool.not_eq_true]

/-- All names are texts. -/
def HaveTextNames (declared : List Entries) : Prop :=
  ∀ entries ∈ declared, ∃ name, nameOf entries = .str name

theorem exists_nameOf_of_mem_namesAt {wanted : Location → Bool} {declared : List Entries}
    (texts : HaveTextNames declared) {name : Text} (member : name ∈ namesAt wanted declared) :
    ∃ entries ∈ declared, nameOf entries = .str name := by
  obtain ⟨entries, inside, displayed⟩ := List.mem_map.mp member
  have listed := (List.mem_filter.mp inside).1
  obtain ⟨given, named⟩ := texts entries listed
  have same : given = name := by
    rw [← displayed]
    unfold nameOf Value.fieldOrNull at named
    unfold displayedField
    cases found : Entries.field? "name" entries with
    | none =>
        rw [found] at named
        cases named
    | some value =>
        rw [found, Option.getD_some] at named
        rw [named]
        rfl
  exact ⟨entries, listed, same ▸ named⟩

/-- Names that are texts are not shared by the surviving parameters of the path and those of the
operation. -/
theorem disjoint_of_haveTextNames {ofPath ofOperation : List Entries}
    (pathTexts : HaveTextNames ofPath) (ownTexts : HaveTextNames ofOperation)
    (wanted : Location → Bool) :
    ∀ name ∈ namesAt wanted (survivors ofPath ofOperation),
      ∀ other ∈ namesAt wanted ofOperation, name ≠ other := by
  -- A text displays as itself, so a shared name would have been met when the lists were merged.
  rintro name survives other own rfl
  have texts : HaveTextNames (survivors ofPath ofOperation) :=
    fun entries member => pathTexts entries (mem_survivors_iff.mp member).1
  obtain ⟨entries, listed, ofEntries⟩ := exists_nameOf_of_mem_namesAt texts survives
  obtain ⟨ownEntries, ownListed, ofOwn⟩ := exists_nameOf_of_mem_namesAt ownTexts own
  have apart := (mem_survivors_iff.mp listed).2 ownEntries ownListed
  have same : Scalar.isSameKey (.str name) (.str name) = true := beq_iff_eq.mpr rfl
  unfold haveSameName at apart
  rw [ofEntries, ofOwn] at apart
  exact absurd (same.symm.trans apart) (by decide)

/-- The names at some kind of place are those of the surviving parameters of the path and then those
of the operation. Where all names are texts, none is there twice exactly if none is twice in one of
the two lists. -/
structure AreMergedNames (ofPath ofOperation : List Entries) (wanted : Location → Bool)
    (names : List Text) : Prop where
  merged : names =
    namesAt wanted (survivors ofPath ofOperation) ++ namesAt wanted ofOperation
  nodup_iff : HaveTextNames ofPath → HaveTextNames ofOperation →
    (names.Nodup ↔ (namesAt wanted (survivors ofPath ofOperation)).Nodup ∧
      (namesAt wanted ofOperation).Nodup)

theorem areMergedNames (ofPath ofOperation : List Entries) (wanted : Location → Bool) :
    AreMergedNames ofPath ofOperation wanted
      (namesAt wanted (survivors ofPath ofOperation ++ ofOperation)) := by
  refine ⟨namesAt_append wanted _ _, fun pathTexts ownTexts => ?_⟩
  rw [namesAt_append, List.nodup_append]
  exact ⟨fun distinct => ⟨distinct.1, distinct.2.1⟩, fun distinct =>
    ⟨distinct.1, distinct.2, disjoint_of_haveTextNames pathTexts ownTexts wanted⟩⟩

/-- The lists of parameters that the path of an operation and the operation itself declare. -/
def AreDeclared (document : Value) (operation : Operation) (ofPath ofOperation : List Entries) :
    Prop :=
  ∃ source paths, Source.ofDocument document = .ok source ∧
    Value.fieldEntries "paths" source.entries = .ok paths ∧
    ∃ site ∈ OperationSite.ofPaths source paths, site.IsImportedAs source operation ∧
      declaredIn source site.shared = .ok ofPath ∧
      declaredIn source (Value.fieldOr "parameters" site.entries (.list [])) = .ok ofOperation

/-- The parameters of an imported operation have the names that its two lists declare, at every kind
of place. -/
theorem exists_areDeclared {document : Value} {foundAt : Option Text} {api : Api}
    (imported : apiOf document foundAt = .ok api) {operation : Operation}
    (member : operation ∈ api.operations) :
    ∃ ofPath ofOperation, AreDeclared document operation ofPath ofOperation ∧
      ∀ wanted : Location → Bool, AreMergedNames ofPath ofOperation wanted
        ((operation.parameters.filter fun parameter => wanted parameter.location).map (·.name)) := by
  obtain ⟨source, opened, _, success, _⟩ := parts_of_apiOf imported
  obtain ⟨paths, listed, _⟩ := Success.of_bind success
  obtain ⟨_, converted, _⟩ := (operationsOf_eq_ok_iff listed).mp success
  obtain ⟨site, inPaths, here⟩ := Success.exists_of_forall₂ converted member
  obtain ⟨merged, made⟩ := exists_isMadeOf here
  obtain ⟨ofPath, ofOperation, shared, own, rfl⟩ := merged_eq made.united
  refine ⟨ofPath, ofOperation, ⟨source, paths, opened, listed, site, inPaths,
    OperationSite.isImportedAs_of_convert here, shared, own⟩, fun wanted => ?_⟩
  rw [names_of_parametersOf made.parameters wanted]
  exact areMergedNames ofPath ofOperation wanted

end ApiForge.Import
