import ApiForge.Artifacts
import ApiForge.Proofs.TypeScript.DistinctNames

/-!
# Clashes of types

A client and a page can be made of every imported API. A file of types can be
made exactly if no named schema has the type of an operation; otherwise the
failure names such a schema and such an operation.
-/

namespace ApiForge.Artifacts

/-- The type of a named schema is also one of the types of an operation. -/
structure IsTypeClash (api : Api) (schema : Text) (operation : Operation) : Prop where
  named : schema ∈ api.schemas.map (·.1)
  listed : operation ∈ api.operations
  shared : Naming.schemaType schema ∈ TypeScript.operationTypes operation

/-- The failure that tells of a clash: the type, the name of the schema and the identifier of the
operation. -/
def clashFailure (schema : Text) (operation : Operation) : Failure :=
  .collision "Type" (Naming.schemaType schema) schema operation.identifier

/-! ## One operation -/

/-- An operation is refused for a type that it shares with a schema. -/
theorem exists_owner_of_checkTypes {owners : List (Text × Text)} {operation : Operation}
    {failure : Failure} (refused : TypeScript.checkTypes owners operation = .error failure) :
    ∃ owner ∈ owners, owner.2 ∈ TypeScript.operationTypes operation ∧
      failure = .collision "Type" owner.2 owner.1 operation.identifier := by
  unfold TypeScript.checkTypes at refused
  dsimp only at refused
  split at refused
  · next schema type taken =>
      obtain ⟨asked, inTypes, found⟩ := List.exists_of_findSome?_eq_some taken
      have same : type = asked := beq_iff_eq.mp (by simpa only using List.find?_some found)
      cases refused
      exact ⟨(schema, type), List.mem_of_find?_eq_some found, same ▸ inTypes, rfl⟩
  · cases refused

/-! ## The file of types -/

variable {api : Api} {owners : List (Text × Text)}

/-- An owner of a type is a named schema with its type. -/
theorem isTypeClash_of_owner
    (assigned : Naming.assign "Schema" Naming.schemaType (api.schemas.map (·.1)) = .ok owners)
    {owner : Text × Text} (member : owner ∈ owners) {operation : Operation}
    (listed : operation ∈ api.operations)
    (shared : owner.2 ∈ TypeScript.operationTypes operation) :
    owner.2 = Naming.schemaType owner.1 ∧ IsTypeClash api owner.1 operation := by
  obtain ⟨named, type⟩ := (Naming.mem_assign_iff assigned).mp member
  exact ⟨type, named, listed, type ▸ shared⟩

/-- The file of types can be made, or the failure tells of a clash. -/
theorem types_cases
    (assigned : Naming.assign "Schema" Naming.schemaType (api.schemas.map (·.1)) = .ok owners) :
    (∃ text, types api = .ok text) ∨
      ∃ schema operation, IsTypeClash api schema operation ∧
        types api = .error (clashFailure schema operation) := by
  unfold types TypeScript.TypesFile.ofApi
  rw [assigned]
  rcases Success.forM_cases (TypeScript.checkTypes owners) api.operations with
    checked | ⟨operation, listed, failure, refused, ended⟩
  · left
    change ∃ text, Except.map _ (api.operations.forM _ >>= _) = .ok text
    rw [checked]
    exact ⟨_, rfl⟩
  · obtain ⟨owner, member, shared, rfl⟩ := exists_owner_of_checkTypes refused
    obtain ⟨type, clash⟩ := isTypeClash_of_owner assigned member listed shared
    refine .inr ⟨owner.1, operation, clash, ?_⟩
    change Except.map _ (api.operations.forM _ >>= _) = _
    rw [ended, type]
    rfl

/-- A file of types that can be made has no clash. -/
theorem not_isTypeClash_of_types {text : Text} (made : types api = .ok text) {schema : Text}
    {operation : Operation} : ¬ IsTypeClash api schema operation := by
  intro clash
  cases declared : TypeScript.TypesFile.ofApi api with
  | error failure =>
      rw [types, declared] at made
      cases made
  | ok file =>
      obtain ⟨owners, assigned, checked, _, _⟩ := TypeScript.parts_of_typesFile declared
      exact TypeScript.not_mem_operationTypes_of_checkTypes (checked operation clash.listed)
        (Naming.mem_assign assigned clash.named) clash.shared

/-! ## All artifacts -/

/-- Client and page of an imported API can be made under every name. Its file of types can be made,
or the failure names a schema and an operation that share a type; it fails exactly if there are
such. -/
theorem artifacts_of_apiOf {document : Value} {foundAt : Option Text}
    (imported : Import.apiOf document foundAt = .ok api) (clientName : Text) :
    (∃ text, client api clientName = .ok text) ∧ (∃ text, docs api clientName = .ok text) ∧
      ((∃ text, types api = .ok text) ∨
        ∃ schema operation, IsTypeClash api schema operation ∧
          types api = .error (clashFailure schema operation)) ∧
      ((∃ failure, types api = .error failure) ↔
        ∃ schema operation, IsTypeClash api schema operation) := by
  obtain ⟨owners, groups, ofSchemas, ofTags⟩ := Import.assigned_of_apiOf imported
  have cases := types_cases ofSchemas
  refine ⟨?_, ?_, cases, ?_, ?_⟩
  · unfold client TypeScript.ClientFile.ofApi
    rw [ofTags]
    exact ⟨_, rfl⟩
  · unfold docs Markdown.Page.ofApi
    rw [ofTags, ofSchemas]
    exact ⟨_, rfl⟩
  · rintro ⟨failure, failed⟩
    rcases cases with ⟨text, made⟩ | ⟨schema, operation, clash, _⟩
    · rw [made] at failed
      cases failed
    · exact ⟨schema, operation, clash⟩
  · rintro ⟨schema, operation, clash⟩
    rcases cases with ⟨text, made⟩ | ⟨_, _, _, failed⟩
    · exact absurd clash (not_isTypeClash_of_types made)
    · exact ⟨_, failed⟩

/-- A description with one operation and one named schema. -/
def shopDocument (schema : Text) : Value :=
  .map [
    (.str "openapi", .str "3.0.0".toList),
    (.str "components", .map [(.str "schemas", .map [
      (.str schema, .map [(.str "type", .str "string".toList)])])]),
    (.str "paths", .map [(.str "/items", .map [(.str "get", .map [
      (.str "operationId", .str "list-items".toList),
      (.str "responses", .map [])])])])]

/-- A schema may have another name than an operation's type has, but not the same one. -/
theorem artifacts_of_shopDocument :
    (∃ api, Import.apiOf (shopDocument "ListItemsRequest") none = .ok api ∧
      ∃ text, types api = .ok text) ∧
      ∃ api, Import.apiOf (shopDocument "list-items-Response") none = .ok api ∧
        (∃ text, client api "ShopClient" = .ok text) ∧
        (∃ text, docs api "ShopClient" = .ok text) ∧
        ∃ schema operation, IsTypeClash api schema operation ∧
          types api = .error (clashFailure schema operation) := by
  have first : ((Import.apiOf (shopDocument "ListItemsRequest") none).toOption.map fun api =>
      (types api).toOption.isSome) = some true := by decide +kernel
  have second : ((Import.apiOf (shopDocument "list-items-Response") none).toOption.map fun api =>
      (types api).toOption.isSome) = some false := by decide +kernel
  obtain ⟨apart, found, made⟩ := Option.map_eq_some_iff.mp first
  obtain ⟨clashing, met, failed⟩ := Option.map_eq_some_iff.mp second
  replace found := Success.of_toOption found
  replace met := Success.of_toOption met
  refine ⟨⟨apart, found, ?_⟩, clashing, met, ?_⟩
  · rcases (artifacts_of_apiOf found "ShopClient").2.2.1 with done | ⟨_, _, _, refused⟩
    · exact done
    · rw [refused] at made
      cases made
  · obtain ⟨ofClient, ofPage, cases, _⟩ := artifacts_of_apiOf met "ShopClient"
    refine ⟨ofClient, ofPage, cases.resolve_left ?_⟩
    rintro ⟨text, done⟩
    rw [done] at failed
    cases failed

end ApiForge.Artifacts
