import ApiForge.Import.Api
import ApiForge.Proofs.Import.SchemaReferences

/-!
# References of imported APIs

Every schema of an imported API, whether it is named, that of a body or that of
a response, refers to schemas that the API names.
-/

namespace ApiForge

/-- The schemas of an operation: of its body and of its responses. -/
def Operation.schemas (operation : Operation) : List Schema :=
  (operation.body.map (·.schema)).toList ++ operation.responses.filterMap (·.schema)

/-- All schemas of an API that stand in no other schema. -/
def Api.everySchema (api : Api) : List Schema :=
  api.schemas.map (·.2) ++ api.operations.flatMap Operation.schemas

namespace Import

variable {source : Source}

theorem covers_of_schemaOf {node : Value} {schema : Schema}
    (success : schemaOf source node = .ok schema) : source.Covers schema :=
  covers_of_schemaFrom success

/-! ## Bodies -/

theorem schema_of_checkedBody {required : Bool} {schema : Schema} {description contentType : Value}
    {body : RequestBody}
    (success : checkedBody required schema description contentType = .ok body) :
    body.schema = schema := by
  obtain ⟨make, text, made, _, rfl⟩ := Success.of_and (Success.of_orAbort success)
  obtain ⟨described, _, rfl⟩ := Success.of_checkedMap made
  rfl

theorem covers_of_bodyOf {node : Value} {body : RequestBody}
    (success : bodyOf source node = .ok (some body)) : source.Covers body.schema := by
  obtain ⟨found, _, success⟩ := Success.of_bind success
  cases found with
  | none => cases success
  | some entries =>
      obtain ⟨picked, _, success⟩ := Success.of_bind success
      cases picked with
      | none => cases success
      | some contentType =>
          obtain ⟨media, _, success⟩ := Success.of_bind success
          obtain ⟨inside, _, success⟩ := Success.of_bind success
          obtain ⟨schema, imported, success⟩ := Success.of_bind success
          obtain ⟨checked, made, same⟩ := Success.of_map success
          cases same
          rw [schema_of_checkedBody made]
          exact covers_of_schemaOf imported

theorem covers_of_bodyOfParameter {operation parameter : Entries} {body : RequestBody}
    (success : bodyOfParameter source operation parameter = .ok body) :
    source.Covers body.schema := by
  obtain ⟨consumed, _, success⟩ := Success.of_bind success
  obtain ⟨json, _, success⟩ := Success.of_bind success
  obtain ⟨schema, imported, success⟩ := Success.of_bind success
  rw [schema_of_checkedBody success]
  exact covers_of_schemaOf imported

theorem covers_of_bodyOfForm {form : List Entries} {body : RequestBody}
    (success : bodyOfForm source form = .ok (some body)) : source.Covers body.schema := by
  unfold bodyOfForm at success
  split at success
  · cases success
  · obtain ⟨properties, traversed, success⟩ := Success.of_bind success
    cases success
    refine Source.covers_object (fun property member => ?_) (fun _ none => nomatch none)
    obtain ⟨entries, _, converted⟩ :=
      Success.exists_of_mem_mapM traversed (Keyed.mem_of_mem_ofList member)
    obtain ⟨schema, imported, made⟩ := Success.of_bind converted
    cases made
    exact covers_of_schemaOf imported

theorem covers_of_bodyOfParameters {operation : Entries} {merged : List Entries}
    {body : RequestBody} (success : bodyOfParameters source operation merged = .ok (some body)) :
    source.Covers body.schema := by
  unfold bodyOfParameters at success
  split at success
  · obtain ⟨made, converted, same⟩ := Success.of_map success
    cases same
    exact covers_of_bodyOfParameter converted
  · exact covers_of_bodyOfForm success

/-! ## Responses -/

theorem covers_of_producedBy {operation response : Entries} {contentType : Value}
    {schema : Schema}
    (success : producedBy source operation response = .ok (contentType, some schema)) :
    source.Covers schema := by
  unfold producedBy at success
  split at success
  · cases success
  · obtain ⟨candidates, _, success⟩ := Success.of_bind success
    dsimp only at success
    split at success
    all_goals
      obtain ⟨fallback, _, success⟩ := Success.of_bind success
      obtain ⟨json, _, success⟩ := Success.of_bind success
      obtain ⟨imported, converted, success⟩ := Success.of_bind success
      cases success
      exact covers_of_schemaOf converted

theorem covers_of_contentOf {response : Entries} {contentType : Value} {schema : Schema}
    (success : contentOf source response = .ok (contentType, some schema)) :
    source.Covers schema := by
  obtain ⟨picked, _, success⟩ := Success.of_bind success
  cases picked with
  | none => cases success
  | some picked =>
      dsimp only at success
      split at success
      all_goals
        obtain ⟨media, _, success⟩ := Success.of_bind success
        split at success
        · obtain ⟨imported, converted, success⟩ := Success.of_bind success
          cases success
          exact covers_of_schemaOf converted
        · cases success

theorem schema_of_checkedResponse {status : Text} {schema : Option Schema}
    {description contentType : Value} {response : Response}
    (success : ((((Checked.text description).within "description").map
      (makeResponse status schema)).and
        ((Checked.optionalText contentType).within "content_type")).orAbort = .ok response) :
    response.schema = schema := by
  obtain ⟨make, text, made, _, rfl⟩ := Success.of_and (Success.of_orAbort success)
  obtain ⟨described, _, rfl⟩ := Success.of_checkedMap made
  rfl

theorem covers_of_responseOf {operation : Entries} {status : Text} {node : Value}
    {response : Response} (success : responseOf source operation status node = .ok (some response))
    {schema : Schema} (carried : response.schema = some schema) : source.Covers schema := by
  unfold responseOf at success
  split at success
  · cases success
  · obtain ⟨found, _, success⟩ := Success.of_bind success
    cases found with
    | none => cases success
    | some entries =>
        dsimp only at success
        split at success
        all_goals
          obtain ⟨⟨contentType, imported⟩, converted, success⟩ := Success.of_bind success
          obtain ⟨made, checked, same⟩ := Success.of_map success
          cases same
          rw [schema_of_checkedResponse checked] at carried
          subst carried
        · exact covers_of_producedBy converted
        · exact covers_of_contentOf converted

theorem covers_of_responsesOf {operation : Entries} {responses : List Response}
    (success : responsesOf source operation = .ok responses) {response : Response}
    (member : response ∈ responses) {schema : Schema} (carried : response.schema = some schema) :
    source.Covers schema := by
  obtain ⟨nodes, _, success⟩ := Success.of_bind success
  obtain ⟨found, traversed, success⟩ := Success.of_bind success
  cases success
  obtain ⟨result, inFound, rfl⟩ := List.mem_filterMap.mp member
  obtain ⟨⟨key, node⟩, _, converted⟩ := Success.exists_of_mem_mapM traversed inFound
  exact covers_of_responseOf converted carried

/-! ## Operations -/

/-- The parts of an imported operation come from its place and its entries; `merged` are the
parameters that hold for it. -/
structure IsMadeOf (source : Source) (path : Text) (shared : Value) (method : Method)
    (entries : Entries) (merged : List Entries) (operation : Operation) : Prop where
  identified : identifierOf method path entries = .str operation.identifier
  united :
    mergedParameters source shared (Value.fieldOr "parameters" entries (.list [])) = .ok merged
  parameters : parametersOf source merged = .ok operation.parameters
  body : (match source.dialect with
    | .swagger => bodyOfParameters source entries merged
    | .openApi => bodyOf source (Value.fieldOrNull "requestBody" entries)) = .ok operation.body
  responses : responsesOf source entries = .ok operation.responses
  path : operation.path = path
  method : operation.method = method

/-- All that an operation is made of, with its texts as they were checked. -/
structure IsReadFrom (source : Source) (place : Text) (shared : Value) (verb : Method)
    (entries : Entries) (merged : List Entries) (named : List Value) (operation : Operation) : Prop
    extends IsMadeOf source place shared verb entries merged operation where
  listed : Value.fieldElements "tags" entries = .ok named
  identifier : (Checked.text (identifierOf verb place entries)).within "operation_id" =
    .ok operation.identifier
  summary : (Checked.optionalText (Value.fieldOrNull "summary" entries)).within "summary" =
    .ok operation.summary
  description : (Checked.optionalText (Value.fieldOrNull "description" entries)).within
    "description" = .ok operation.description
  tags : operation.tags = named.map Value.display
  deprecated : operation.deprecated = (Value.fieldOrNull "deprecated" entries).holds

theorem exists_isReadFrom {path : Text} {shared : Value} {method : Method} {entries : Entries}
    {operation : Operation}
    (success : operationOf source path shared method entries = .ok operation) :
    ∃ merged tags, IsReadFrom source path shared method entries merged tags operation := by
  obtain ⟨merged, united, success⟩ := Success.of_bind success
  dsimp only at success
  split at success
  all_goals
    next dialect =>
      obtain ⟨body, given, success⟩ := Success.of_bind success
      obtain ⟨tags, listed, success⟩ := Success.of_bind success
      obtain ⟨parameters, imported, success⟩ := Success.of_bind success
      obtain ⟨responses, answered, success⟩ := Success.of_bind success
      obtain ⟨_, description, summarized, described, rfl⟩ :=
        Success.of_and (Success.of_orAbort success)
      obtain ⟨_, summary, identified, summed, rfl⟩ := Success.of_and summarized
      obtain ⟨identifier, checked, rfl⟩ := Success.of_checkedMap identified
      refine ⟨merged, tags,
        ⟨Success.of_text checked, united, imported, ?_, answered, rfl, rfl⟩,
        listed, checked, summed, described, rfl, rfl⟩
      rw [dialect]
      exact given

theorem exists_isMadeOf {path : Text} {shared : Value} {method : Method} {entries : Entries}
    {operation : Operation}
    (success : operationOf source path shared method entries = .ok operation) :
    ∃ merged, IsMadeOf source path shared method entries merged operation := by
  obtain ⟨merged, _, read⟩ := exists_isReadFrom success
  exact ⟨merged, read.toIsMadeOf⟩

theorem covers_of_operationOf {path : Text} {shared : Value} {method : Method} {entries : Entries}
    {operation : Operation}
    (success : operationOf source path shared method entries = .ok operation) :
    ∀ schema ∈ operation.schemas, source.Covers schema := by
  obtain ⟨merged, made⟩ := exists_isMadeOf success
  intro schema member
  rcases List.mem_append.mp member with inBody | inResponses
  · obtain ⟨body, given, rfl⟩ := Option.map_eq_some_iff.mp (Option.mem_toList.mp inBody)
    have imported := made.body
    rw [given] at imported
    split at imported
    · exact covers_of_bodyOfParameters imported
    · exact covers_of_bodyOf imported
  · obtain ⟨response, listed, carried⟩ := List.mem_filterMap.mp inResponses
    exact covers_of_responsesOf made.responses listed carried

/-- What one more operation keeps, if it was imported and its identifier was free, all the operations
of a description have. -/
theorem operationsOf_keeps (holds : List Operation → Prop) {operations : List Operation}
    (success : operationsOf source = .ok operations) (atStart : holds [])
    (keeps : ∀ known operation path shared method entries, holds known →
      operationOf source path shared method entries = .ok operation →
      checkIdentifier known operation = .ok () → holds (known ++ [operation])) :
    holds operations := by
  obtain ⟨paths, _, success⟩ := Success.of_bind success
  refine Success.foldlM_keeps holds success atStart ?_
  rintro known ⟨key, node⟩ next held step
  dsimp only at step
  split at step
  · cases step
    exact held
  · obtain ⟨found, _, step⟩ := Success.of_bind step
    cases found with
    | none =>
        cases step
        exact held
    | some item =>
        refine Success.foldlM_keeps holds step held ?_
        intro known method next held step
        split at step
        · obtain ⟨operation, imported, step⟩ := Success.of_bind step
          obtain ⟨_, free, step⟩ := Success.of_bind step
          cases step
          exact keeps _ _ _ _ _ _ held imported free
        · cases step
          exact held

/-! ## APIs -/

/-- The parts of an imported API, each as it was imported and checked; `info` is what is said about
the whole and `base` the base URL. -/
structure IsApiOf (source : Source) (foundAt : Option Text) (info : Entries) (base : Value)
    (api : Api) : Prop where
  said : (Value.fieldOr "info" source.entries (.map [])).entries? = some info
  title : api.title = (Value.fieldOr "title" info (.str "Untitled API")).display
  version : api.version = (Value.fieldOr "version" info (.str "0.0.0")).display
  description : (Checked.optionalText (Value.fieldOrNull "description" info)).within
    "description" = .ok api.description
  based : baseUrlOf source foundAt = .ok base
  baseUrl : (Checked.optionalText base).within "base_url" = .ok api.baseUrl
  schemas : namedSchemas source = .ok api.schemas
  operations : operationsOf source = .ok api.operations
  tags : tagsOf source = .ok api.tags
  names : checkNames api = .ok ()

theorem exists_isApiOf {document : Value} {foundAt : Option Text} {api : Api}
    (success : apiOf document foundAt = .ok api) :
    ∃ source info base, Source.ofDocument document = .ok source ∧
      IsApiOf source foundAt info base api := by
  obtain ⟨source, opened, success⟩ := Success.of_bind success
  obtain ⟨schemas, named, success⟩ := Success.of_bind success
  obtain ⟨info, said, success⟩ := Success.of_bind success
  obtain ⟨base, based, success⟩ := Success.of_bind success
  obtain ⟨operations, listed, success⟩ := Success.of_bind success
  obtain ⟨tags, tagged, success⟩ := Success.of_bind success
  obtain ⟨made, checked, success⟩ := Success.of_bind success
  obtain ⟨make, baseUrl, described, url, rfl⟩ := Success.of_and (Success.of_orAbort checked)
  obtain ⟨description, text, rfl⟩ := Success.of_checkedMap described
  split at success
  · next names =>
      cases success
      exact ⟨source, info, base, opened, Success.of_foreseen said, rfl, rfl, text, based, url,
        named, listed, tagged, names⟩
  · cases success

/-- The named schemas, the operations and the names of an imported API, each as it was imported and
checked. -/
theorem parts_of_apiOf {document : Value} {foundAt : Option Text} {api : Api}
    (success : apiOf document foundAt = .ok api) :
    ∃ source, Source.ofDocument document = .ok source ∧
      namedSchemas source = .ok api.schemas ∧ operationsOf source = .ok api.operations ∧
      checkNames api = .ok () := by
  obtain ⟨source, _, _, opened, parts⟩ := exists_isApiOf success
  exact ⟨source, opened, parts.schemas, parts.operations, parts.names⟩

/-- The schemas and the groups of an imported API have identifiers of their own. -/
theorem assigned_of_apiOf {document : Value} {foundAt : Option Text} {api : Api}
    (success : apiOf document foundAt = .ok api) :
    ∃ types groups,
      Naming.assign "Schema" Naming.schemaType (api.schemas.map (·.1)) = .ok types ∧
        Naming.assign "Tag" Naming.group api.groupNames = .ok groups := by
  obtain ⟨_, _, _, _, names⟩ := parts_of_apiOf success
  obtain ⟨types, ofSchemas, names⟩ := Success.of_bind names
  obtain ⟨groups, ofTags, _⟩ := Success.of_bind names
  exact ⟨types, groups, ofSchemas, ofTags⟩

theorem names_of_namedSchemas {schemas : List (Text × Schema)}
    (success : namedSchemas source = .ok schemas) :
    ∀ name, name ∈ schemas.map (·.1) ↔ name ∈ source.schemaNames := by
  obtain ⟨imported, traversed, success⟩ := Success.of_bind success
  cases success
  intro name
  have names : imported.map (·.1) = source.schemaNames :=
    Success.map_eq_of_mapM (·.1) (·.1.display) traversed fun entry result converted => by
      obtain ⟨schema, _, made⟩ := Success.of_bind converted
      cases made
      rfl
  rw [Keyed.mem_map_ofList, names]

theorem covers_of_namedSchemas {schemas : List (Text × Schema)}
    (success : namedSchemas source = .ok schemas) :
    ∀ schema ∈ schemas.map (·.2), source.Covers schema := by
  intro schema member
  obtain ⟨entry, listed, rfl⟩ := List.mem_map.mp member
  obtain ⟨imported, traversed, success⟩ := Success.of_bind success
  cases success
  obtain ⟨⟨key, node⟩, _, converted⟩ :=
    Success.exists_of_mem_mapM traversed (Keyed.mem_of_mem_ofList listed)
  obtain ⟨schema, found, made⟩ := Success.of_bind converted
  cases made
  exact covers_of_schemaFrom found

/-- Every name that an imported API refers to is that of one of its schemas. -/
theorem references_of_apiOf {document : Value} {foundAt : Option Text} {api : Api}
    (success : apiOf document foundAt = .ok api) :
    ∀ schema ∈ api.everySchema, ∀ name ∈ schema.references, name ∈ api.schemas.map (·.1) := by
  obtain ⟨source, _, named, listed, _⟩ := parts_of_apiOf success
  have covered : ∀ operation ∈ api.operations, ∀ schema ∈ operation.schemas,
      source.Covers schema := by
    refine operationsOf_keeps
      (fun known => ∀ operation ∈ known, ∀ schema ∈ operation.schemas, source.Covers schema)
      listed (fun _ none => nomatch none) ?_
    intro known operation path shared method entries held imported _ other member
    rcases List.mem_append.mp member with old | new
    · exact held other old
    · rw [List.mem_singleton.mp new]
      exact covers_of_operationOf imported
  intro schema member name mentioned
  rw [names_of_namedSchemas named]
  rcases List.mem_append.mp member with inNamed | inOperations
  · exact covers_of_namedSchemas named schema inNamed name mentioned
  · obtain ⟨operation, imported, inside⟩ := List.mem_flatMap.mp inOperations
    exact covered operation imported schema inside name mentioned

end Import

end ApiForge
