import ApiForge.Proofs.Import.ApiReferences
import ApiForge.TypeScript.Client

/-!
# Declared names

The names that types, declarations and methods use. The type of a schema uses
the types of the schemas it refers to and no others. The file of types of an
imported API declares every name that its own declarations use, and every name
that the client imports or that the head of one of its methods uses.
-/

namespace ApiForge.TypeScript

mutual

/-- The names that a type uses, at any depth. -/
def TypeExpr.names : TypeExpr → List Text
  | .builtin _ => []
  | .named name => [name]
  | .literal _ => []
  | .union members => namesOfTypes members
  | .list item => item.names
  | .record value => value.names
  | .object members => namesOfMembers members
  termination_by structural type => type

def namesOfTypes : List TypeExpr → List Text
  | [] => []
  | type :: rest => type.names ++ namesOfTypes rest
  termination_by structural types => types

def namesOfMembers : List (Member TypeExpr) → List Text
  | [] => []
  | ⟨_, _, _, type⟩ :: rest => type.names ++ namesOfMembers rest
  termination_by structural members => members

end

/-- The names that a declaration uses. -/
def Declaration.uses (declaration : Declaration) : List Text :=
  match declaration.meaning with
  | .members members => namesOfMembers members
  | .type type => type.names

/-- The names that the head of a method uses. -/
def ClientMethod.uses (method : ClientMethod) : List Text :=
  (method.params.map (·.type)).toList ++ (method.body.map (·.type)).toList ++ [method.response]

/-- The names that a file of types declares, in order. -/
def TypesFile.names (file : TypesFile) : List Text :=
  file.declarations.map (·.name)

namespace TypeExpr

theorem namesOfTypes_append (first second : List TypeExpr) :
    namesOfTypes (first ++ second) = namesOfTypes first ++ namesOfTypes second := by
  induction first with
  | nil => rfl
  | cons type rest ih => simp [namesOfTypes, ih]

theorem namesOfTypes_literals (values : List Text) : namesOfTypes (values.map .literal) = [] := by
  induction values with
  | nil => rfl
  | cons value rest ih => simpa [namesOfTypes, names] using ih

theorem names_withNull (type : TypeExpr) : type.withNull.names = type.names := by
  unfold withNull
  split
  · rfl
  · split
    · simp [names, namesOfTypes_append, namesOfTypes]
    · simp [names, namesOfTypes]

theorem names_noted (notes : Notes) (type : TypeExpr) : (noted notes type).names = type.names := by
  unfold noted
  split
  · exact names_withNull type
  · rfl

theorem names_ofPrimitive (notes : Notes) (type : Primitive) :
    (ofPrimitive notes type).names = [] := by
  unfold ofPrimitive
  split <;> rfl

theorem names_ofValues (values : List Text) : (ofValues values).names = [] := by
  cases values with
  | nil => rfl
  | cons value rest => exact namesOfTypes_literals (value :: rest)

theorem names_ofParameter (parameter : Parameter) : (ofParameter parameter).names = [] := by
  unfold ofParameter
  split <;> rfl

/-! ## The types of schemas -/

/-- The names are those of the types of schemas that are referred to. -/
def Within (names references : List Text) : Prop :=
  ∀ name ∈ names, ∃ reference ∈ references, Naming.schemaType reference = name

theorem within_nil (references : List Text) : Within [] references :=
  fun _ none => nomatch none

theorem Within.append {first second references others : List Text}
    (one : Within first references) (other : Within second others) :
    Within (first ++ second) (references ++ others) := by
  intro name member
  rcases List.mem_append.mp member with inFirst | inSecond
  · obtain ⟨reference, given, same⟩ := one name inFirst
    exact ⟨reference, List.mem_append_left _ given, same⟩
  · obtain ⟨reference, given, same⟩ := other name inSecond
    exact ⟨reference, List.mem_append_right _ given, same⟩

mutual

/-- The type of a schema uses the types of the schemas that it refers to. -/
theorem names_ofSchema : (schema : Schema) → Within (ofSchema schema).names schema.references
  | .primitive notes type => by
      rw [ofSchema, names_noted, names_ofPrimitive]
      exact within_nil _
  | .enumeration notes values => by
      rw [ofSchema, names_noted, names_ofValues]
      exact within_nil _
  | .array notes items => by
      rw [ofSchema, names_noted]
      exact names_ofSchema items
  | .object notes [] required additional => by
      rw [ofSchema, names_noted]
      exact names_ofAdditional additional
  | .object notes (property :: rest) required additional => by
      rw [ofSchema, names_noted, ← List.append_nil (names _)]
      exact (names_membersOf required (property :: rest)).append (within_nil _)
  | .reference notes name => by
      rw [ofSchema, names_noted]
      intro used member
      exact ⟨name, List.mem_singleton_self _, (List.mem_singleton.mp member).symm⟩
  termination_by structural schema => schema

theorem names_membersOf (required : List Text) : (properties : List (Text × Schema)) →
    Within (namesOfMembers (membersOf required properties)) (referencesOfProperties properties)
  | [] => within_nil _
  | (_, schema) :: rest => (names_ofSchema schema).append (names_membersOf required rest)
  termination_by structural properties => properties

theorem names_ofAdditional : (additional : Option Schema) →
    Within (ofAdditional additional).names (referencesOfAdditional additional)
  | none => within_nil _
  | some schema => names_ofSchema schema
  termination_by structural additional => additional

end

end TypeExpr

/-! ## Declarations -/

namespace Declaration

/-- The declaration of a schema uses the types of the schemas that it refers to. -/
theorem uses_ofSchema (name : Text) (schema : Schema) :
    TypeExpr.Within (ofSchema name schema).uses schema.references := by
  have used := TypeExpr.names_ofSchema schema
  unfold uses ofSchema
  generalize TypeExpr.ofSchema schema = type at used ⊢
  cases schema <;> cases type <;> exact used

theorem uses_ofParameters (name : Text) (parameters : List Parameter) :
    (ofParameters name parameters).uses = [] := by
  induction parameters with
  | nil => rfl
  | cons parameter rest ih =>
      change (TypeExpr.ofParameter parameter).names ++ (ofParameters name rest).uses = []
      rw [TypeExpr.names_ofParameter, ih]
      rfl

end Declaration

/-! ## The parts of a file of types -/

/-- The schemas' types could be told apart from each other and from those of the operations. -/
theorem parts_of_typesFile {api : Api} {file : TypesFile}
    (success : TypesFile.ofApi api = .ok file) :
    ∃ owners,
      Naming.assign "Schema" Naming.schemaType (api.schemas.map (·.1)) = .ok owners ∧
      (∀ operation ∈ api.operations, checkTypes owners operation = .ok ()) ∧
      file.schemas = api.schemas.map (fun (name, schema) =>
        .ofSchema (Naming.schemaType name) schema) ∧
      file.operations = api.operations.flatMap operationDeclarations := by
  obtain ⟨owners, assigned, success⟩ := Success.of_bind success
  obtain ⟨_, checked, success⟩ := Success.of_bind success
  cases success
  exact ⟨owners, assigned, fun operation member => Success.of_forM checked member, rfl, rfl⟩

@[simp]
theorem name_responseDeclaration (operation : Operation) :
    (responseDeclaration operation).name = responseType operation := by
  unfold responseDeclaration
  split <;> rfl

theorem names_operationDeclarations (operation : Operation) :
    (operationDeclarations operation).map (·.name) = operationTypes operation := by
  unfold operationDeclarations operationTypes requestType?
  cases paramsType? operation <;> cases operation.body <;>
    simp [Declaration.ofParameters, Declaration.ofSchema]

/-- The names declared are the types of the schemas and then those of the operations. -/
theorem names_ofApi {api : Api} {file : TypesFile} (success : TypesFile.ofApi api = .ok file) :
    file.names = (api.schemas.map fun schema => Naming.schemaType schema.1) ++
      api.operations.flatMap operationTypes := by
  obtain ⟨owners, _, _, schemas, operations⟩ := parts_of_typesFile success
  rw [TypesFile.names, TypesFile.declarations, schemas, operations, List.map_append, List.map_map,
    List.map_flatMap]
  simp only [names_operationDeclarations]
  rfl

/-! ## Names in use -/

/-- The declarations of an operation use only types of the schemas that its own schemas refer to. -/
theorem uses_operationDeclarations {operation : Operation} {declaration : Declaration}
    (member : declaration ∈ operationDeclarations operation) {name : Text}
    (used : name ∈ declaration.uses) :
    ∃ schema ∈ operation.schemas, ∃ reference ∈ schema.references,
      Naming.schemaType reference = name := by
  unfold operationDeclarations at member
  rw [List.mem_append, List.mem_append, Option.mem_toList, Option.mem_toList,
    List.mem_singleton] at member
  rcases member with (ofParameters | ofBody) | ofResponse
  · obtain ⟨type, _, rfl⟩ := Option.map_eq_some_iff.mp ofParameters
    rw [Declaration.uses_ofParameters] at used
    cases used
  · obtain ⟨body, given, rfl⟩ := Option.map_eq_some_iff.mp ofBody
    refine ⟨body.schema, List.mem_append_left _ ?_, Declaration.uses_ofSchema _ _ name used⟩
    rw [given]
    exact List.mem_singleton_self _
  · subst ofResponse
    unfold responseDeclaration at used
    split at used
    · next schema returned =>
        obtain ⟨response, picked, carried⟩ := Option.bind_eq_some_iff.mp returned
        have listed : response ∈ operation.responses := List.mem_of_find?_eq_some picked
        refine ⟨schema, List.mem_append_right _ ?_, Declaration.uses_ofSchema _ _ name used⟩
        exact List.mem_filterMap.mpr ⟨response, listed, carried⟩
    · cases used

/-- Every declaration of an imported API uses declared names only. -/
theorem uses_declared {document : Value} {foundAt : Option Text} {api : Api} {file : TypesFile}
    (imported : Import.apiOf document foundAt = .ok api) (success : TypesFile.ofApi api = .ok file)
    {declaration : Declaration} (member : declaration ∈ file.declarations) {name : Text}
    (used : name ∈ declaration.uses) : name ∈ file.names := by
  have declares : ∀ schema ∈ api.everySchema, ∀ reference ∈ schema.references,
      Naming.schemaType reference ∈ file.names := by
    intro schema inside reference mentioned
    obtain ⟨entry, listed, rfl⟩ :=
      List.mem_map.mp (Import.references_of_apiOf imported schema inside reference mentioned)
    rw [names_ofApi success]
    exact List.mem_append_left _ (List.mem_map.mpr ⟨entry, listed, rfl⟩)
  obtain ⟨owners, _, _, schemas, operations⟩ := parts_of_typesFile success
  rw [TypesFile.declarations, schemas, operations] at member
  rcases List.mem_append.mp member with ofSchema | ofOperation
  · obtain ⟨entry, listed, rfl⟩ := List.mem_map.mp ofSchema
    obtain ⟨reference, mentioned, rfl⟩ := Declaration.uses_ofSchema _ _ name used
    refine declares entry.2 (List.mem_append_left _ ?_) reference mentioned
    exact List.mem_map.mpr ⟨entry, listed, rfl⟩
  · obtain ⟨operation, listed, inOperation⟩ := List.mem_flatMap.mp ofOperation
    obtain ⟨schema, inside, reference, mentioned, rfl⟩ :=
      uses_operationDeclarations inOperation used
    refine declares schema (List.mem_append_right _ ?_) reference mentioned
    exact List.mem_flatMap.mpr ⟨operation, listed, inside⟩

/-- The head of a method uses types of its operation. -/
theorem uses_ofOperation (operation : Operation) :
    (ClientMethod.ofOperation operation).uses = operationTypes operation := by
  unfold ClientMethod.uses ClientMethod.ofOperation ClientMethod.paramsOf ClientMethod.bodyOf
    operationTypes requestType?
  cases paramsType? operation <;> cases operation.body <;> rfl

/-- A client of an imported API can be made under every name. -/
theorem exists_clientFile {document : Value} {foundAt : Option Text} {api : Api}
    (imported : Import.apiOf document foundAt = .ok api) (clientName : Text) :
    ∃ client, ClientFile.ofApi api clientName = .ok client := by
  obtain ⟨_, groups, _, assigned⟩ := Import.assigned_of_apiOf imported
  unfold ClientFile.ofApi
  rw [assigned]
  exact ⟨_, rfl⟩

/-- The groups of a client are those of the API. -/
theorem groups_of_clientFile {api : Api} {clientName : Text} {client : ClientFile}
    (made : ClientFile.ofApi api clientName = .ok client) :
    client.groups = api.groups.map fun (group, operations) =>
      ⟨Naming.group group, operations.map .ofOperation⟩ := by
  obtain ⟨_, _, made⟩ := Success.of_bind made
  cases made
  rfl

/-- The client imports types of operations, and its methods use types of operations. -/
theorem names_of_clientFile {api : Api} {clientName : Text} {client : ClientFile}
    (success : ClientFile.ofApi api clientName = .ok client) :
    (∀ name ∈ client.imports, name ∈ api.operations.flatMap operationTypes) ∧
      ∀ group ∈ client.groups, ∀ method ∈ group.methods, ∀ name ∈ method.uses,
        name ∈ api.operations.flatMap operationTypes := by
  obtain ⟨_, _, success⟩ := Success.of_bind success
  cases success
  constructor
  · intro name member
    exact Text.mem_distinct.mp member
  · intro group inGroups method inMethods name used
    obtain ⟨⟨tag, operations⟩, listed, rfl⟩ := List.mem_map.mp inGroups
    obtain ⟨operation, inGroup, rfl⟩ := List.mem_map.mp inMethods
    obtain ⟨_, _, same⟩ := List.mem_map.mp listed
    cases same
    rw [uses_ofOperation] at used
    exact List.mem_flatMap.mpr ⟨operation, (List.mem_filter.mp inGroup).1, used⟩

/-- No name is left dangling: an imported API refers to its own schemas only, its file of types uses
only names that the file declares, and so does every client made from the API. -/
theorem names_closed_of_apiOf {document : Value} {foundAt : Option Text} {api : Api}
    (imported : Import.apiOf document foundAt = .ok api) :
    (∀ schema ∈ api.everySchema, ∀ name ∈ schema.references, name ∈ api.schemas.map (·.1)) ∧
      ∀ file, TypesFile.ofApi api = .ok file →
        (∀ declaration ∈ file.declarations, ∀ name ∈ declaration.uses, name ∈ file.names) ∧
          ∀ clientName, ∃ client, ClientFile.ofApi api clientName = .ok client ∧
            (∀ name ∈ client.imports, name ∈ file.names) ∧
            ∀ group ∈ client.groups, ∀ method ∈ group.methods, ∀ name ∈ method.uses,
              name ∈ file.names := by
  refine ⟨Import.references_of_apiOf imported, fun file declared => ⟨?_, fun clientName => ?_⟩⟩
  · intro declaration member name used
    exact uses_declared imported declared member used
  · obtain ⟨client, made⟩ := exists_clientFile imported clientName
    obtain ⟨inImports, inMethods⟩ := names_of_clientFile made
    rw [names_ofApi declared]
    refine ⟨client, made, ?_, ?_⟩
    · intro name member
      exact List.mem_append_right _ (inImports name member)
    · intro group inGroups method inGroup name used
      exact List.mem_append_right _ (inMethods group inGroups method inGroup name used)

/-- A description with one named schema, which refers to itself and to which an answer refers. -/
def petDocument : Value :=
  let pet : Value := .map [(.str "$ref", .scalar (.str "#/components/schemas/Pet"))]
  let schema : Value := .map [
    (.str "type", .scalar (.str "object")),
    (.str "properties", .map [(.str "parent", pet)])]
  let response : Value := .map [
    (.str "description", .scalar (.str "All pets")),
    (.str "content", .map [(.str "application/json", .map [(.str "schema", .map [
      (.str "type", .scalar (.str "array")), (.str "items", pet)])])])]
  let operation : Value := .map [
    (.str "operationId", .scalar (.str "listPets")),
    (.str "responses", .map [(.str "200", response)])]
  .map [
    (.str "openapi", .scalar (.str "3.0.0")),
    (.str "components", .map [(.str "schemas", .map [(.str "Pet", schema)])]),
    (.str "paths", .map [(.str "/pets", .map [(.str "get", operation)])])]

theorem names_closed_of_petDocument :
    ∃ api, Import.apiOf petDocument none = .ok api ∧
      ∃ file, TypesFile.ofApi api = .ok file ∧
        file.declarations.map (·.uses) = [["Pet".toList], ["Pet".toList]] ∧
        (∀ schema ∈ api.everySchema, ∀ name ∈ schema.references,
          name ∈ api.schemas.map (·.1)) ∧
        (∀ declaration ∈ file.declarations, ∀ name ∈ declaration.uses, name ∈ file.names) ∧
        ∃ client, ClientFile.ofApi api "PetClient" = .ok client ∧
          ∀ name ∈ client.imports, name ∈ file.names := by
  have evaluated : ((Import.apiOf petDocument none).toOption.bind fun api =>
      (TypesFile.ofApi api).toOption).map (fun file => file.declarations.map (·.uses)) =
        some [["Pet".toList], ["Pet".toList]] := by decide +kernel
  obtain ⟨file, found, uses⟩ := Option.map_eq_some_iff.mp evaluated
  obtain ⟨api, imported, declared⟩ := Option.bind_eq_some_iff.mp found
  replace imported := Success.of_toOption imported
  replace declared := Success.of_toOption declared
  obtain ⟨references, ofFile⟩ := names_closed_of_apiOf imported
  obtain ⟨inFile, ofClient⟩ := ofFile file declared
  obtain ⟨client, made, imports, _⟩ := ofClient "PetClient"
  exact ⟨api, imported, file, declared, uses, references, inFile, client, made, imports⟩

end ApiForge.TypeScript
