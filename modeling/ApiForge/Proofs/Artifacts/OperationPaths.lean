import ApiForge.Command.Inspect
import ApiForge.Proofs.Markdown.PageParts
import ApiForge.Proofs.TypeScript.DistinctNames
import ApiForge.Proofs.TypeScript.MethodPaths

/-!
# Paths of operations

Each operation of an imported API has one method in the client, one entry in the
table of contents of the page and one block on it. The page and an inspection
print the path through which the client reaches the method.
-/

namespace ApiForge.Artifacts

open ApiForge.TypeScript (MethodPath)

/-- The operations in the order of their groups. -/
def grouped (api : Api) : List Operation :=
  api.groups.flatMap (·.2)

/-- The value that a record has under a name. -/
def fieldOf (name : Text) (record : Value) : Option Value :=
  record.entries?.bind (Entries.field? name)

/-- The call of an operation: its path in the client. -/
def pathCall (operation : Operation) : Text :=
  "api." ++ (MethodPath.ofOperation operation).spell

/-- The client has one method for each operation, in the member of the operation's group, and no
two methods have one path. -/
structure IsInClient (api : Api) (client : TypeScript.ClientFile) : Prop where
  methods : client.methodPaths = (grouped api).map MethodPath.ofOperation
  apart : client.methodPaths.Nodup

/-- The page consists of its parts. It has one entry in the table of contents and one block for
each operation, and one block for each named schema; where it prints a call, it is the path of an
operation. -/
structure IsOnPage (api : Api) (page : Markdown.Page) : Prop where
  parts : Markdown.pageLines page = page.parts.flatMap Markdown.Part.lines
  contents : (page.parts.filterMap Markdown.Part.contents?).map (fun entry =>
      (entry.operation, entry.heading)) =
    (grouped api).map fun operation => (operation, Markdown.headingOf operation)
  blocks : (page.parts.filterMap Markdown.Part.operation?).map (fun entry =>
      (entry.operation, entry.call)) =
    (grouped api).map fun operation => (operation, pathCall operation)
  models : (page.parts.filterMap Markdown.Part.model?).map (fun entry =>
      (entry.name, entry.schema)) =
    api.schemas.map fun schema => (Naming.schemaType schema.1, schema.2)
  calls : ∀ entry ∈ page.operations,
    "- **Client method:** " ++ Markdown.ticked (pathCall entry.operation ++ "()") ∈
      Markdown.operationLines entry
  quickStart : ∀ start, page.quickStart = some start →
    ∃ operation ∈ api.operations, start.call = pathCall operation ++ "()"

/-- An inspection has one record and one row for each operation, with its path. -/
structure IsInspected (acquired : Acquired) : Prop where
  records : ∃ records, fieldOf "operations" (Command.apiRecord acquired) = some (.list records) ∧
    records.map (fieldOf "clientMethod") = acquired.api.operations.map fun operation =>
      some (.str (MethodPath.ofOperation operation).spell)
  rows : (Command.operationTable acquired.api).rows.map (·[2]?) =
    acquired.api.operations.map fun operation => some (MethodPath.ofOperation operation).spell

/-! ## The page -/

theorem callOf_eq_pathCall (operation : Operation) :
    Markdown.callOf operation = pathCall operation := by
  simp only [Markdown.callOf, pathCall, MethodPath.spell, MethodPath.ofOperation,
    List.append_assoc]

theorem call_mem_operationLines (entry : Markdown.OperationEntry) :
    "- **Client method:** " ++ Markdown.ticked (entry.call ++ "()") ∈
      Markdown.operationLines entry := by
  simp only [Markdown.operationLines, List.mem_append, List.mem_cons, or_true, true_or]

theorem quickStart_of_page {api : Api} {clientName : Text} {page : Markdown.Page}
    (made : Markdown.Page.ofApi api clientName = .ok page) :
    page.quickStart = (Markdown.quickStartOperation? api).map Markdown.quickStartOf := by
  unfold Markdown.Page.ofApi at made
  obtain ⟨_, _, made⟩ := Success.of_bind made
  obtain ⟨_, _, made⟩ := Success.of_bind made
  cases made
  rfl

theorem isOnPage_of_page {api : Api} {clientName : Text} {page : Markdown.Page}
    (made : Markdown.Page.ofApi api clientName = .ok page) : IsOnPage api page := by
  obtain ⟨operations, models⟩ := Markdown.isPageOf_of_page made
  refine ⟨Markdown.pageLines_eq page, ?_, ?_, ?_, ?_, ?_⟩
  · rw [Markdown.filterMap_contents?]
    have headings := congrArg (List.map fun said => (said.1, said.2.1)) operations
    rwa [List.map_map, List.map_map] at headings
  · rw [Markdown.filterMap_operation?]
    have calls := congrArg (List.map fun said => (said.1, said.2.2)) operations
    rw [List.map_map, List.map_map] at calls
    simp only [Function.comp_def, callOf_eq_pathCall] at calls
    exact calls
  · rw [Markdown.filterMap_model?]
    exact models
  · intro entry member
    have said := List.mem_map_of_mem (f := fun entry : Markdown.OperationEntry =>
      (entry.operation, entry.heading, entry.call)) member
    rw [operations] at said
    obtain ⟨operation, _, same⟩ := List.mem_map.mp said
    obtain ⟨rfl, said⟩ := Prod.mk.inj same
    have call : entry.call = pathCall entry.operation :=
      (Prod.mk.inj said).2.symm.trans (callOf_eq_pathCall entry.operation)
    exact call ▸ call_mem_operationLines entry
  · intro start started
    rw [quickStart_of_page made] at started
    obtain ⟨operation, found, rfl⟩ := Option.map_eq_some_iff.mp started
    exact ⟨operation, List.mem_of_find?_eq_some found, by
      rw [Markdown.quickStartOf, callOf_eq_pathCall]⟩

/-! ## An inspection -/

theorem isInspected (acquired : Acquired) : IsInspected acquired := by
  refine ⟨⟨acquired.api.operations.map Command.operationRecord, rfl, ?_⟩, ?_⟩
  · rw [List.map_map]
    rfl
  · exact List.map_map

/-! ## All artifacts -/

/-- The operations of an imported API stand in groups; client and page can be made under every
name, and have each operation once, under the path that an inspection prints. -/
theorem operations_of_artifacts {document : Value} {foundAt : Option Text} {api : Api}
    (imported : Import.apiOf document foundAt = .ok api) (clientName : Text) :
    IsGrouping api.operations api.groups ∧
      (∃ client, TypeScript.ClientFile.ofApi api clientName = .ok client ∧ IsInClient api client) ∧
      (∃ page, Markdown.Page.ofApi api clientName = .ok page ∧ IsOnPage api page) ∧
      ∀ acquired : Acquired, acquired.api = api → IsInspected acquired := by
  obtain ⟨owners, groups, ofSchemas, ofTags⟩ := Import.assigned_of_apiOf imported
  obtain ⟨_, _, _, listed, _⟩ := Import.parts_of_apiOf imported
  refine ⟨api.isGrouping, ?_, ?_, fun acquired _ => isInspected acquired⟩
  · obtain ⟨client, made⟩ : ∃ client, TypeScript.ClientFile.ofApi api clientName = .ok client := by
      unfold TypeScript.ClientFile.ofApi
      rw [ofTags]
      exact ⟨_, rfl⟩
    have paths := TypeScript.methodPaths_of_clientFile made
    have distinct := ((api.isGrouping.complete.map fun operation =>
      Naming.pascal operation.identifier).nodup_iff).mpr
        (TypeScript.pascal_nodup_of_operationsOf listed)
    exact ⟨client, made, paths, paths ▸ TypeScript.map_methodPath_nodup distinct⟩
  · obtain ⟨page, made⟩ : ∃ page, Markdown.Page.ofApi api clientName = .ok page := by
      unfold Markdown.Page.ofApi
      rw [ofTags, ofSchemas]
      exact ⟨_, rfl⟩
    exact ⟨page, made, isOnPage_of_page made⟩

/-- A description whose operations are in two groups by turns. -/
def fleetDocument : Value :=
  let operation (identifier tag : Text) : Value :=
    .map [(.str "operationId", .str identifier), (.str "tags", .list [.str tag]),
      (.str "responses", .map [])]
  .map [
    (.str "openapi", .str "3.0.0".toList),
    (.str "components", .map [(.str "schemas", .map [(.str "van", .map [])])]),
    (.str "paths", .map [
      (.str "/vans", .map [(.str "get", operation "list-vans" "van pool"),
        (.str "post", operation "addVan" "crew")]),
      (.str "/vans/all", .map [(.str "get", operation "all_vans" "van pool")])])]

/-- The first group goes on after the second one has begun, and keeps its methods together. -/
theorem operations_of_fleetDocument :
    ∃ api, Import.apiOf fleetDocument none = .ok api ∧
      api.operations.map (·.identifier) = ["list-vans".toList, "addVan", "all_vans"] ∧
      IsGrouping api.operations api.groups ∧
      ∃ client, TypeScript.ClientFile.ofApi api "FleetClient" = .ok client ∧
        client.methodPaths =
          [⟨"vanPool", "listVans"⟩, ⟨"vanPool", "allVans"⟩, ⟨"crew", "addVan"⟩] ∧
        client.methodPaths.Nodup := by
  have evaluated : ((Import.apiOf fleetDocument none).toOption.map fun api =>
      (api.operations.map (·.identifier), (grouped api).map MethodPath.ofOperation)) =
        some (["list-vans".toList, "addVan", "all_vans"],
          [⟨"vanPool", "listVans"⟩, ⟨"vanPool", "allVans"⟩, ⟨"crew", "addVan"⟩]) := by
    decide +kernel
  obtain ⟨api, imported, read⟩ := Option.map_eq_some_iff.mp evaluated
  obtain ⟨identifiers, paths⟩ := Prod.mk.inj read
  replace imported := Success.of_toOption imported
  obtain ⟨groups, ⟨client, made, methods, apart⟩, _⟩ :=
    operations_of_artifacts imported "FleetClient"
  exact ⟨api, imported, identifiers, groups, client, made, methods.trans paths, apart⟩

end ApiForge.Artifacts
