import ApiForge.Proofs.Import.ParameterNames
import ApiForge.Proofs.TypeScript.DistinctNames

/-!
# Declarations of one operation

Among the declarations of operations' types, those with the name of one
operation's type are that operation's own. So the file declares its parameters
if it has fields, its body if it has one, and always what it returns. The
members of the declared parameters are the fields in order, under the names that
the description declares.
-/

namespace ApiForge.TypeScript

/-- The declarations of operations' types that have a name. -/
def TypesFile.operationsNamed (file : TypesFile) (name : Text) : List Declaration :=
  file.operations.filter fun declaration => declaration.name == name

variable {document : Value} {foundAt : Option Text} {api : Api} {file : TypesFile}
  {operation : Operation}

/-- The type of another operation's has another name. -/
theorem filter_operationDeclarations_of_ne {other : Operation} {suffix : Text}
    (suffixed : suffix ∈ suffixes)
    (apart : Naming.pascal other.identifier ≠ Naming.pascal operation.identifier) :
    ((operationDeclarations other).filter fun declaration =>
      declaration.name == Naming.operationType operation.identifier suffix) = [] := by
  rw [List.filter_eq_nil_iff]
  intro declaration member same
  have named : declaration.name ∈ operationTypes other := by
    rw [← names_operationDeclarations]
    exact List.mem_map_of_mem member
  rw [operationTypes_eq_map, List.mem_map] at named
  obtain ⟨otherSuffix, inSuffixes, name⟩ := named
  refine apart (pascal_eq_of_operationType_eq ((suffixesOf_sublist other).subset inSuffixes)
    suffixed ?_)
  rw [name]
  exact beq_iff_eq.mp same

/-- The declarations with the name of an operation's type are among the operation's. -/
theorem operationsNamed_eq (imported : Import.apiOf document foundAt = .ok api)
    (declared : TypesFile.ofApi api = .ok file) (member : operation ∈ api.operations)
    {suffix : Text} (suffixed : suffix ∈ suffixes) :
    file.operationsNamed (Naming.operationType operation.identifier suffix) =
      (operationDeclarations operation).filter fun declaration =>
        declaration.name == Naming.operationType operation.identifier suffix := by
  obtain ⟨_, _, _, listed, _⟩ := Import.parts_of_apiOf imported
  obtain ⟨_, _, _, _, operations⟩ := parts_of_typesFile declared
  have distinct := pascal_nodup_of_operationsOf listed
  -- The operations before and after this one have other identifiers, so the filter empties their parts.
  obtain ⟨before, after, split⟩ := List.append_of_mem member
  rw [split, List.map_append, List.map_cons, List.nodup_append, List.nodup_cons] at distinct
  obtain ⟨_, ⟨notAfter, _⟩, apart⟩ := distinct
  have ofBefore : ∀ other ∈ before,
      Naming.pascal other.identifier ≠ Naming.pascal operation.identifier :=
    fun other inBefore => apart _ (List.mem_map.mpr ⟨other, inBefore, rfl⟩) _ List.mem_cons_self
  have ofAfter : ∀ other ∈ after,
      Naming.pascal other.identifier ≠ Naming.pascal operation.identifier :=
    fun other inAfter same => notAfter (List.mem_map.mpr ⟨other, inAfter, same⟩)
  unfold TypesFile.operationsNamed
  rw [operations, split, List.filter_flatMap, List.flatMap_append, List.flatMap_cons,
    List.flatMap_eq_nil_iff.mpr fun other inBefore =>
      filter_operationDeclarations_of_ne suffixed (ofBefore other inBefore),
    List.flatMap_eq_nil_iff.mpr fun other inAfter =>
      filter_operationDeclarations_of_ne suffixed (ofAfter other inAfter),
    List.nil_append, List.append_nil]

/-- Declarations with the name of one type of an operation are those of that type or none. -/
theorem filter_named {identifier other : Text} {declarations : List Declaration}
    (named : ∀ declaration ∈ declarations,
      declaration.name = Naming.operationType identifier other) (suffix : Text) :
    (declarations.filter fun declaration =>
      declaration.name == Naming.operationType identifier suffix) =
        if other = suffix then declarations else [] := by
  split
  · next same =>
      rw [List.filter_eq_self]
      intro declaration member
      rw [named declaration member, same]
      exact beq_iff_eq.mpr rfl
  · next apart =>
      rw [List.filter_eq_nil_iff]
      intro declaration member same
      rw [named declaration member] at same
      exact apart (List.append_cancel_left (beq_iff_eq.mp same))

theorem filter_operationDeclarations (operation : Operation) (suffix : Text) :
    ((operationDeclarations operation).filter fun declaration =>
      declaration.name == Naming.operationType operation.identifier suffix) =
      (if Naming.paramsSuffix = suffix then
        ((paramsType? operation).map fun name =>
          Declaration.ofParameters name operation.fields).toList
      else []) ++
      (if Naming.requestSuffix = suffix then
        (operation.body.map fun body =>
          Declaration.ofSchema (Naming.operationType operation.identifier Naming.requestSuffix)
            body.schema).toList
      else []) ++
      if Naming.responseSuffix = suffix then [responseDeclaration operation] else [] := by
  unfold operationDeclarations
  rw [List.filter_append, List.filter_append]
  congr 1
  · congr 1
    · refine filter_named (fun declaration member => ?_) suffix
      obtain ⟨name, given, rfl⟩ := Option.map_eq_some_iff.mp (Option.mem_toList.mp member)
      unfold paramsType? at given
      exact (Option.some.inj (Option.ite_none_left_eq_some.mp given).2).symm
    · refine filter_named (fun declaration member => ?_) suffix
      obtain ⟨body, _, rfl⟩ := Option.map_eq_some_iff.mp (Option.mem_toList.mp member)
      rfl
  · refine filter_named (fun declaration member => ?_) suffix
    rw [List.mem_singleton.mp member]
    exact name_responseDeclaration operation

section

variable (imported : Import.apiOf document foundAt = .ok api)
  (declared : TypesFile.ofApi api = .ok file) (member : operation ∈ api.operations)

include imported declared member

/-- The parameters of an operation are declared exactly if it has fields. -/
theorem operationsNamed_params :
    file.operationsNamed (Naming.operationType operation.identifier Naming.paramsSuffix) =
      ((paramsType? operation).map fun name =>
        Declaration.ofParameters name operation.fields).toList := by
  rw [operationsNamed_eq imported declared member (by decide), filter_operationDeclarations,
    if_pos rfl, if_neg (by decide), if_neg (by decide), List.append_nil, List.append_nil]

/-- The body of an operation is declared exactly if it has one. -/
theorem operationsNamed_request :
    file.operationsNamed (Naming.operationType operation.identifier Naming.requestSuffix) =
      (operation.body.map fun body =>
        Declaration.ofSchema (Naming.operationType operation.identifier Naming.requestSuffix)
          body.schema).toList := by
  rw [operationsNamed_eq imported declared member (by decide), filter_operationDeclarations,
    if_neg (by decide), if_pos rfl, if_neg (by decide), List.nil_append, List.append_nil]

theorem operationsNamed_response :
    file.operationsNamed (Naming.operationType operation.identifier Naming.responseSuffix) =
      [responseDeclaration operation] := by
  rw [operationsNamed_eq imported declared member (by decide), filter_operationDeclarations,
    if_neg (by decide), if_neg (by decide), if_pos rfl]
  rfl

end

/-! ## Names of parameters -/

/-- The members that a declaration lists, each with whether it may be left out. -/
def Declaration.listed (declaration : Declaration) : List (Text × Bool) :=
  match declaration.meaning with
  | .members members => members.map fun member => (member.name, member.isOptional)
  | .type _ => []

/-- The names of the members that a declaration lists. -/
def Declaration.memberNames (declaration : Declaration) : List Text :=
  declaration.listed.map (·.1)

theorem listed_ofParameters (name : Text) (parameters : List Parameter) :
    (Declaration.ofParameters name parameters).listed =
      parameters.map fun parameter => (parameter.name, !parameter.required) :=
  List.map_map

theorem memberNames_ofParameters (name : Text) (parameters : List Parameter) :
    (Declaration.ofParameters name parameters).memberNames = parameters.map (·.name) := by
  rw [Declaration.memberNames, listed_ofParameters, List.map_map]
  rfl

/-- A call passes parameters at this place as fields of one object. -/
def isField (location : Location) : Bool :=
  location == .path || location == .query

/-- The parameters of an operation, and the members of the type that is declared for them, have the
names of the parameters of its path that none of its own parameters overrides, and then the names of
its own. Nothing keeps a name from being twice in one of these two lists. -/
theorem parameterNames_of_apiOf (imported : Import.apiOf document foundAt = .ok api)
    (member : operation ∈ api.operations) :
    ∃ ofPath ofOperation, Import.AreDeclared document operation ofPath ofOperation ∧
      (∀ entries, entries ∈ Import.survivors ofPath ofOperation ↔
        entries ∈ ofPath ∧ ∀ own ∈ ofOperation, Import.haveSameName own entries = false) ∧
      Import.AreMergedNames ofPath ofOperation (fun _ => true) (operation.parameters.map (·.name)) ∧
      ∀ file, TypesFile.ofApi api = .ok file →
        ∀ declaration ∈ file.operationsNamed
            (Naming.operationType operation.identifier Naming.paramsSuffix),
          Import.AreMergedNames ofPath ofOperation isField declaration.memberNames := by
  obtain ⟨ofPath, ofOperation, declares, names⟩ := Import.exists_areDeclared imported member
  refine ⟨ofPath, ofOperation, declares, fun _ => Import.mem_survivors_iff, ?_, ?_⟩
  · have all := names fun _ => true
    rwa [List.filter_eq_self.mpr fun _ _ => rfl] at all
  · intro file declared declaration named
    rw [operationsNamed_params imported declared member, Option.mem_toList] at named
    obtain ⟨name, _, rfl⟩ := Option.map_eq_some_iff.mp named
    rw [memberNames_ofParameters]
    exact names isField

/-- A description with one operation, whose path has the parameters "id" and "page". The operation
has the given parameters with their places. -/
def itemDocument (own : List (Text × Text)) : Value :=
  let parameters (given : List (Text × Text)) : Scalar × Value :=
    (.str "parameters", .list (given.map fun parameter => .map [
      (.str "name", .str parameter.1),
      (.str "in", .str parameter.2),
      (.str "required", .bool (parameter.2 == "path".toList))]))
  let operation : Value := .map [
    (.str "operationId", .str "getItem"), parameters own,
    (.str "responses", .map [(.str "200", .map [(.str "description", .str "One item")])])]
  .map [
    (.str "openapi", .str "3.0.0"),
    (.str "info", .map [(.str "title", .str "Items"), (.str "version", .str "1")]),
    (.str "paths", .map [
      (.str "/items/\x7bid\x7d", .map [
        parameters [("id", "path"), ("page", "query")], (.str "get", operation)])])]

/-- What an item's operation and the type of its parameters list. -/
def itemNames (own : List (Text × Text)) : Option (List Text × List Text) := do
  let api ← (Import.apiOf (itemDocument own) none).toOption
  let operation ← api.operations.head?
  let file ← (TypesFile.ofApi api).toOption
  let declaration ← (file.operationsNamed
    (Naming.operationType operation.identifier Naming.paramsSuffix)).head?
  some (operation.parameters.map (·.name), declaration.memberNames)

theorem exists_of_itemNames {own : List (Text × Text)} {names fields : List Text}
    (evaluated : itemNames own = some (names, fields)) :
    ∃ api operation file declaration, Import.apiOf (itemDocument own) none = .ok api ∧
      operation ∈ api.operations ∧ operation.parameters.map (·.name) = names ∧
      TypesFile.ofApi api = .ok file ∧
      declaration ∈ file.operationsNamed
        (Naming.operationType operation.identifier Naming.paramsSuffix) ∧
      declaration.memberNames = fields := by
  obtain ⟨api, imported, evaluated⟩ := Option.bind_eq_some_iff.mp evaluated
  obtain ⟨operation, first, evaluated⟩ := Option.bind_eq_some_iff.mp evaluated
  obtain ⟨file, declared, evaluated⟩ := Option.bind_eq_some_iff.mp evaluated
  obtain ⟨declaration, named, evaluated⟩ := Option.bind_eq_some_iff.mp evaluated
  obtain ⟨listed, members⟩ := Prod.mk.inj (Option.some.inj evaluated)
  exact ⟨api, operation, file, declaration, Success.of_toOption imported,
    List.mem_of_mem_head? first, listed, Success.of_toOption declared, List.mem_of_mem_head? named,
    members⟩

theorem parameterNames_of_itemDocument :
    ∃ api, Import.apiOf (itemDocument [("page", "query"), ("limit", "header")]) none = .ok api ∧
      ∃ operation ∈ api.operations,
        operation.parameters.map (·.name) = ["id".toList, "page".toList, "limit".toList] ∧
        ∃ ofPath ofOperation,
          Import.AreDeclared (itemDocument [("page", "query"), ("limit", "header")]) operation
            ofPath ofOperation ∧
          Import.AreMergedNames ofPath ofOperation (fun _ => true)
            ["id".toList, "page".toList, "limit".toList] ∧
          Import.AreMergedNames ofPath ofOperation isField ["id".toList, "page".toList] := by
  have evaluated : itemNames [("page", "query"), ("limit", "header")] =
      some (["id".toList, "page".toList, "limit".toList], ["id".toList, "page".toList]) := by
    decide +kernel
  obtain ⟨api, operation, file, declaration, imported, member, names, declared, named, fields⟩ :=
    exists_of_itemNames evaluated
  obtain ⟨ofPath, ofOperation, declares, _, merged, ofFile⟩ :=
    parameterNames_of_apiOf imported member
  rw [names] at merged
  have ofMembers := ofFile file declared declaration named
  rw [fields] at ofMembers
  exact ⟨api, imported, operation, member, names, ofPath, ofOperation, declares, merged, ofMembers⟩

/-- One name at two places, both in the list of the operation, is there twice. -/
theorem not_nodup_of_itemDocument :
    ∃ api, Import.apiOf (itemDocument [("id", "path"), ("id", "query")]) none = .ok api ∧
      ∃ operation ∈ api.operations, ¬ (operation.parameters.map (·.name)).Nodup ∧
        ∃ file, TypesFile.ofApi api = .ok file ∧
          ∃ declaration ∈ file.operationsNamed
              (Naming.operationType operation.identifier Naming.paramsSuffix),
            ¬ declaration.memberNames.Nodup := by
  have evaluated : itemNames [("id", "path"), ("id", "query")] =
      some (["page".toList, "id".toList, "id".toList],
        ["page".toList, "id".toList, "id".toList]) := by
    decide +kernel
  have twice : ¬ ["page".toList, "id".toList, "id".toList].Nodup := by decide
  obtain ⟨api, operation, file, declaration, imported, member, names, declared, named, fields⟩ :=
    exists_of_itemNames evaluated
  refine ⟨api, imported, operation, member, ?_, file, declared, declaration, named, ?_⟩
  · rwa [names]
  · rwa [fields]

end ApiForge.TypeScript
