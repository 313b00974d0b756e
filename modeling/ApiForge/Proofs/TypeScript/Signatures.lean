import ApiForge.Proofs.Text.Stretches
import ApiForge.Proofs.TypeScript.OperationDeclarations
import ApiForge.Proofs.TypeScript.TemplateReads

/-!
# Signatures of operations

The file of types and the client are made from one operation by different
functions. They agree on its signature: the method takes the arguments that are
declared, may leave out what is declared as optional, and returns what is
declared. It reads fields of its parameters that are declared, and without a
guard only those that are required, except where a dollar sign of the path turns
the text of a placeholder into an expression.
-/

namespace ApiForge.TypeScript

variable {document : Value} {foundAt : Option Text} {api : Api} {file : TypesFile}
  {operation : Operation}

/-! ## What agrees -/

/-- The method takes the parameters that are declared for its operation. -/
structure AgreesOnParams (file : TypesFile) (operation : Operation) (method : ClientMethod) :
    Prop where
  taken_iff : method.params.isSome = true ↔
    ∃ parameter ∈ operation.parameters, parameter.location = .path ∨ parameter.location = .query
  declared_iff :
    file.operationsNamed (Naming.operationType operation.identifier Naming.paramsSuffix) ≠ [] ↔
      method.params.isSome = true
  type : ∀ argument, method.params = some argument →
    argument.type = Naming.operationType operation.identifier Naming.paramsSuffix
  listed : ∀ declaration ∈
      file.operationsNamed (Naming.operationType operation.identifier Naming.paramsSuffix),
    declaration.listed =
      (operation.parameters.filter fun parameter => isField parameter.location).map
        fun parameter => (parameter.name, !parameter.required)

/-- The line sets a field of the query only if the parameter is given. -/
def isGuarded (parameter : Parameter) (line : Text) : Bool :=
  line.startsWith
    ("      if (" ++ Naming.memberAccess "params" parameter.name ++ " !== undefined) ")

/-- The fields that the method reads are declared, and those read without a guard are required. The
texts of exposed placeholders are the only other expressions in the literal of the path. -/
structure AgreesOnReads (operation : Operation) (method : ClientMethod) : Prop where
  path : ∃ found, interpolations (pathTemplate method.pathNames method.path) = some found ∧
    found.Perm ((readNames method.pathNames method.path).map encodedRead ++
      (exposed method.pathNames method.path).map escapeTemplate)
  pathFields : ∀ name ∈ readNames method.pathNames method.path,
    ∃ parameter ∈ operation.fields, parameter.name = name ∧ parameter.required = true
  exposed : ∀ name ∈ exposed method.pathNames method.path,
    ∀ parameter ∈ operation.parameters, parameter.location = .path → parameter.name ≠ name
  query : ∀ line ∈ ClientMethod.queryLines method.query,
    line = "      const query = new URLSearchParams();".toList ∨
      line = "      const queryString = query.toString();".toList ∨
      ∃ parameter ∈ operation.fields, line = ClientMethod.queryLine parameter ∧
        isGuarded parameter line = !parameter.required
  omitted_iff : ∀ argument, method.params = some argument →
    (argument.mayOmit = true ↔ ∀ parameter ∈ operation.fields, parameter.required = false)
  omitted : ∀ argument, method.params = some argument → argument.mayOmit = true →
    readNames method.pathNames method.path = []

/-- The method takes and sends the body that is declared for its operation. -/
structure AgreesOnBody (file : TypesFile) (operation : Operation) (method : ClientMethod) :
    Prop where
  declared_iff :
    file.operationsNamed (Naming.operationType operation.identifier Naming.requestSuffix) ≠ [] ↔
      method.body.isSome = true
  type : ∀ argument, method.body = some argument →
    argument.type = Naming.operationType operation.identifier Naming.requestSuffix
  sent : method.call.holds ", body, " = method.body.isSome

/-- The method returns what is declared: an answer of the type of the first success that has a
schema, or nothing. -/
structure AgreesOnResponse (file : TypesFile) (operation : Operation) (method : ClientMethod) :
    Prop where
  promised : method.response = responseType operation
  returned : ∀ before response after schema,
    operation.responses = before ++ response :: after →
    (∀ other ∈ before, other.status.startsWith "2" = true → other.schema = none) →
    response.status.startsWith "2" = true → response.schema = some schema →
      file.operationsNamed (responseType operation) =
        [Declaration.ofSchema (responseType operation) schema] ∧
      method.sendLines =
        ["      const response = await " ++ method.call ++ ";",
          "      return (await response.json()) as " ++ responseType operation ++ ";"]
  void : (∀ response ∈ operation.responses,
      response.status.startsWith "2" = true → response.schema = none) →
    file.operationsNamed (responseType operation) =
      [⟨responseType operation, none, .type (.builtin .void)⟩] ∧
    method.sendLines = ["      await " ++ method.call ++ ";"]

/-- The declarations of an operation's types and its method are of one signature. -/
structure Agrees (file : TypesFile) (operation : Operation) (method : ClientMethod) : Prop where
  params : AgreesOnParams file operation method
  reads : AgreesOnReads operation method
  body : AgreesOnBody file operation method
  response : AgreesOnResponse file operation method

/-! ## Fields of parameters -/

theorem isField_iff {location : Location} :
    isField location = true ↔ location = .path ∨ location = .query := by
  cases location <;> decide

theorem fields_eq (operation : Operation) :
    operation.fields = operation.parameters.filter fun parameter => isField parameter.location :=
  rfl

theorem mem_fields_of_location {parameter : Parameter} {location : Location}
    (placed : isField location = true) (member : parameter ∈ operation.parametersIn location) :
    parameter ∈ operation.fields := by
  obtain ⟨listed, same⟩ := List.mem_filter.mp member
  rw [fields_eq, List.mem_filter, beq_iff_eq.mp same]
  exact ⟨listed, placed⟩

theorem isSome_paramsOf (operation : Operation) :
    (ClientMethod.paramsOf operation).isSome = !operation.fields.isEmpty := by
  unfold ClientMethod.paramsOf paramsType?
  cases operation.fields.isEmpty <;> rfl

theorem of_paramsOf {argument : Argument}
    (taken : ClientMethod.paramsOf operation = some argument) :
    argument.type = Naming.operationType operation.identifier Naming.paramsSuffix ∧
      argument.mayOmit = !operation.fields.any (·.required) := by
  obtain ⟨type, given, rfl⟩ := Option.map_eq_some_iff.mp taken
  exact ⟨(Option.some.inj (Option.ite_none_left_eq_some.mp given).2).symm, rfl⟩

theorem agreesOnParams (imported : Import.apiOf document foundAt = .ok api)
    (declared : TypesFile.ofApi api = .ok file) (member : operation ∈ api.operations) :
    AgreesOnParams file operation (.ofOperation operation) := by
  have declarations := operationsNamed_params imported declared member
  have taken : (ClientMethod.ofOperation operation).params = ClientMethod.paramsOf operation := rfl
  constructor
  · rw [taken, isSome_paramsOf, Bool.not_eq_true', List.isEmpty_eq_false_iff_exists_mem, fields_eq]
    simp only [List.mem_filter, isField_iff]
  · rw [declarations, taken, isSome_paramsOf]
    unfold paramsType?
    cases operation.fields.isEmpty <;> simp
  · exact fun argument given => (of_paramsOf given).1
  · intro declaration named
    rw [declarations, Option.mem_toList] at named
    obtain ⟨name, _, rfl⟩ := Option.map_eq_some_iff.mp named
    rw [listed_ofParameters, fields_eq]

/-! ## Reads -/

/-- Only what may be left out is guarded. -/
theorem isGuarded_queryLine (parameter : Parameter) :
    isGuarded parameter (ClientMethod.queryLine parameter) = !parameter.required := by
  unfold isGuarded ClientMethod.queryLine
  cases parameter.required with
  | true => rfl
  | false => exact List.isPrefixOf_iff_prefix.mpr (List.prefix_append _ _)

theorem agreesOnReads (operation : Operation) :
    AgreesOnReads operation (.ofOperation operation) := by
  have pathFields : ∀ name ∈ readNames (ClientMethod.ofOperation operation).pathNames
      (ClientMethod.ofOperation operation).path,
      ∃ parameter ∈ operation.fields, parameter.name = name ∧ parameter.required = true := by
    intro name member
    obtain ⟨parameter, ofPath, rfl⟩ := List.mem_map.mp (mem_of_mem_readNames member)
    have placed := beq_iff_eq.mp (List.mem_filter.mp ofPath).2
    exact ⟨parameter, mem_fields_of_location rfl ofPath, rfl, parameter.required_of_path placed⟩
  have omitted_iff : ∀ argument, (ClientMethod.ofOperation operation).params = some argument →
      (argument.mayOmit = true ↔ ∀ parameter ∈ operation.fields, parameter.required = false) := by
    intro argument taken
    rw [(of_paramsOf taken).2, Bool.not_eq_true', List.any_eq_false]
    simp only [Bool.not_eq_true]
  refine ⟨interpolations_perm _ _, pathFields, ?_, ?_, omitted_iff, ?_⟩
  · rintro name member parameter listed placed rfl
    refine not_mem_of_mem_exposed member (List.mem_map.mpr ⟨parameter, ?_, rfl⟩)
    exact List.mem_filter.mpr ⟨listed, beq_iff_eq.mpr placed⟩
  · intro line member
    unfold ClientMethod.queryLines at member
    split at member
    · cases member
    · rcases List.mem_append.mp member with opened | closed
      · rcases List.mem_cons.mp opened with rfl | set
        · exact .inl rfl
        · obtain ⟨parameter, ofQuery, rfl⟩ := List.mem_map.mp set
          exact .inr (.inr ⟨parameter, mem_fields_of_location rfl ofQuery, rfl,
            isGuarded_queryLine parameter⟩)
      · exact .inr (.inl (List.mem_singleton.mp closed))
  · intro argument taken omits
    rw [List.eq_nil_iff_forall_not_mem]
    intro name member
    obtain ⟨parameter, inFields, _, required⟩ := pathFields name member
    rw [(omitted_iff argument taken).mp omits parameter inFields] at required
    cases required

/-! ## Bodies -/

/-- A call names the body exactly if there is a content type. -/
theorem holds_call {method : ClientMethod} {kind : Method} (named : method.verb = kind.verb) :
    method.call.holds ", body, " = method.contentType.isSome := by
  unfold ClientMethod.call
  rw [named]
  cases method.contentType with
  | none => cases method.query.isEmpty <;> cases kind <;> decide +kernel
  | some contentType =>
      have begun : ", body, ".toList <:+: ", body, ".toList ++ Json.quote true contentType :=
        (List.prefix_append _ _).isInfix
      rw [Option.isSome_some, Text.holds_iff_isInfix]
      exact begun.trans (List.infix_append _ _ _)

theorem agreesOnBody (imported : Import.apiOf document foundAt = .ok api)
    (declared : TypesFile.ofApi api = .ok file) (member : operation ∈ api.operations) :
    AgreesOnBody file operation (.ofOperation operation) := by
  have taken : (ClientMethod.ofOperation operation).body = ClientMethod.bodyOf operation := rfl
  have isSome : (ClientMethod.bodyOf operation).isSome = operation.body.isSome := Option.isSome_map
  constructor
  · rw [operationsNamed_request imported declared member, taken, isSome]
    cases operation.body <;> simp
  · intro argument given
    obtain ⟨body, _, rfl⟩ := Option.map_eq_some_iff.mp given
    rfl
  · have typed : (ClientMethod.ofOperation operation).contentType.isSome = operation.body.isSome :=
      Option.isSome_map
    rw [@holds_call _ operation.method rfl, typed, taken, isSome]

/-! ## Responses -/

theorem isSuccess_eq_false_iff {response : Response} :
    Operation.isSuccess response = false ↔
      (response.status.startsWith "2" = true → response.schema = none) := by
  unfold Operation.isSuccess
  cases response.schema <;> simp

theorem agreesOnResponse (imported : Import.apiOf document foundAt = .ok api)
    (declared : TypesFile.ofApi api = .ok file) (member : operation ∈ api.operations) :
    AgreesOnResponse file operation (.ofOperation operation) := by
  have declarations : file.operationsNamed (responseType operation) = _ :=
    operationsNamed_response imported declared member
  refine ⟨rfl, ?_, ?_⟩
  · intro before response after schema split earlier status given
    have success : operation.success? = some response := by
      refine List.find?_eq_some_iff_append.mpr ⟨?_, before, after, split, ?_⟩
      · rw [Operation.isSuccess, status, given]
        rfl
      · intro other inBefore
        rw [isSuccess_eq_false_iff.mpr (earlier other inBefore)]
        rfl
    rw [declarations, responseDeclaration, success, Option.bind_some, given]
    refine ⟨rfl, ?_⟩
    rw [ClientMethod.sendLines, ClientMethod.ofOperation, success]
    rfl
  · intro none
    have success : operation.success? = .none := by
      refine List.find?_eq_none.mpr fun response listed => ?_
      rw [isSuccess_eq_false_iff.mpr (none response listed)]
      exact Bool.false_ne_true
    rw [declarations, responseDeclaration, success]
    refine ⟨rfl, ?_⟩
    rw [ClientMethod.sendLines, ClientMethod.ofOperation, success]
    rfl

/-! ## Signatures of an API -/

/-- A client of an imported API has a method for every operation, in the group of its tag, and the
method agrees with the declarations of the operation's types. -/
theorem agrees_of_apiOf (imported : Import.apiOf document foundAt = .ok api)
    (declared : TypesFile.ofApi api = .ok file) (clientName : Text) :
    ∃ client, ClientFile.ofApi api clientName = .ok client ∧
      ∀ operation ∈ api.operations, ∃ group ∈ client.groups,
        group.name = Naming.group operation.group ∧
          ClientMethod.ofOperation operation ∈ group.methods ∧
          Agrees file operation (.ofOperation operation) := by
  obtain ⟨client, made⟩ := exists_clientFile imported clientName
  refine ⟨client, made, fun operation member => ?_⟩
  have grouped : operation ∈ api.operations.filter fun other => other.group == operation.group :=
    List.mem_filter.mpr ⟨member, beq_iff_eq.mpr rfl⟩
  have listed : operation.group ∈ api.groupNames :=
    Text.mem_distinct.mpr (List.mem_map.mpr ⟨operation, member, rfl⟩)
  refine ⟨⟨Naming.group operation.group,
    (api.operations.filter fun other => other.group == operation.group).map .ofOperation⟩,
    ?_, rfl, List.mem_map.mpr ⟨operation, grouped, rfl⟩, ?_⟩
  · rw [groups_of_clientFile made]
    exact List.mem_map.mpr ⟨_, List.mem_map.mpr ⟨_, listed, rfl⟩, rfl⟩
  · exact ⟨agreesOnParams imported declared member, agreesOnReads operation,
      agreesOnBody imported declared member, agreesOnResponse imported declared member⟩

/-- A description with one operation at a path, with a field in the query that may be left out and
the given fields of the path, a body and an answer. -/
def placeDocument (path : Text) (ofPath : List Text) : Value :=
  let text : Value := .map [(.str "type", .str "string")]
  let content : Scalar × Value :=
    (.str "content", .map [(.str "application/json", .map [(.str "schema", text)])])
  let parameter (name place : Text) (required : Bool) : Value := .map [
    (.str "name", .str name), (.str "in", .str place), (.str "required", .bool required),
    (.str "schema", text)]
  let operation : Value := .map [
    (.str "operationId", .str "putPlace"),
    (.str "parameters",
      .list (parameter "q" "query" false :: ofPath.map fun name => parameter name "path" true)),
    (.str "requestBody", .map [content]),
    (.str "responses", .map [
      (.str "404", .map [(.str "description", .str "No place")]),
      (.str "200", .map [(.str "description", .str "The place"), content])])]
  .map [
    (.str "openapi", .str "3.0.0"),
    (.str "info", .map [(.str "title", .str "Places"), (.str "version", .str "1")]),
    (.str "paths", .map [(.str path, .map [(.str "put", operation)])])]

/-- The expressions in the literal of the path, the names of the fields, and whether a call may
leave the parameters out, for the one operation of a description. -/
def readsOf (document : Value) : Option (Option (List Text) × List Text × Option Bool) := do
  let api ← (Import.apiOf document none).toOption
  let _ ← (TypesFile.ofApi api).toOption
  let operation ← api.operations.head?
  let method := ClientMethod.ofOperation operation
  some (interpolations (pathTemplate method.pathNames method.path),
    operation.fields.map (·.name), method.params.map (·.mayOmit))

theorem exists_of_readsOf {document : Value} {found : Option (List Text)} {names : List Text}
    {omits : Option Bool} (evaluated : readsOf document = some (found, names, omits)) :
    ∃ api file operation, Import.apiOf document none = .ok api ∧
      TypesFile.ofApi api = .ok file ∧ operation ∈ api.operations ∧
      interpolations (pathTemplate (ClientMethod.ofOperation operation).pathNames
        (ClientMethod.ofOperation operation).path) = found ∧
      operation.fields.map (·.name) = names ∧
      (ClientMethod.ofOperation operation).params.map (·.mayOmit) = omits := by
  obtain ⟨api, imported, evaluated⟩ := Option.bind_eq_some_iff.mp evaluated
  obtain ⟨file, declared, evaluated⟩ := Option.bind_eq_some_iff.mp evaluated
  obtain ⟨operation, first, evaluated⟩ := Option.bind_eq_some_iff.mp evaluated
  obtain ⟨read, rest⟩ := Prod.mk.inj (Option.some.inj evaluated)
  obtain ⟨fields, omitted⟩ := Prod.mk.inj rest
  exact ⟨api, file, operation, Success.of_toOption imported, Success.of_toOption declared,
    List.mem_of_mem_head? first, read, fields, omitted⟩

theorem agrees_of_placeDocument :
    ∃ api, Import.apiOf (placeDocument "/places/\x7bid\x7d" ["id"]) none = .ok api ∧
      ∃ file, TypesFile.ofApi api = .ok file ∧
        ∃ client, ClientFile.ofApi api "PlaceClient" = .ok client ∧
          ∃ operation ∈ api.operations, ∃ group ∈ client.groups,
            ClientMethod.ofOperation operation ∈ group.methods ∧
              Agrees file operation (.ofOperation operation) ∧
              interpolations (pathTemplate (ClientMethod.ofOperation operation).pathNames
                  (ClientMethod.ofOperation operation).path) =
                some ["encodeURIComponent(String(params.id))".toList] := by
  have evaluated : readsOf (placeDocument "/places/\x7bid\x7d" ["id"]) =
      some (some ["encodeURIComponent(String(params.id))".toList], ["q".toList, "id".toList],
        some false) := by
    decide +kernel
  obtain ⟨api, file, operation, imported, declared, member, found, _⟩ :=
    exists_of_readsOf evaluated
  obtain ⟨client, made, ofOperations⟩ := agrees_of_apiOf imported declared "PlaceClient"
  obtain ⟨group, inGroups, _, inMethods, agrees⟩ := ofOperations operation member
  exact ⟨api, imported, file, declared, client, made, operation, member, group, inGroups, inMethods,
    agrees, found⟩

/-- A placeholder without a parameter right after a dollar sign reads a field that is not declared,
and the call may leave out the parameters altogether. -/
theorem not_declared_of_exposed :
    ∃ api file, Import.apiOf (placeDocument "/places/$\x7bparams.secret\x7d" []) none = .ok api ∧
      TypesFile.ofApi api = .ok file ∧
      ∃ operation ∈ api.operations,
        interpolations (pathTemplate (ClientMethod.ofOperation operation).pathNames
            (ClientMethod.ofOperation operation).path) = some ["params.secret".toList] ∧
        "secret".toList ∉ operation.fields.map (·.name) ∧
        (ClientMethod.ofOperation operation).params.map (·.mayOmit) = some true := by
  have evaluated : readsOf (placeDocument "/places/$\x7bparams.secret\x7d" []) =
      some (some ["params.secret".toList], ["q".toList], some true) := by
    decide +kernel
  have missing : "secret".toList ∉ ["q".toList] := by decide
  obtain ⟨api, file, operation, imported, declared, member, found, fields, omits⟩ :=
    exists_of_readsOf evaluated
  exact ⟨api, file, imported, declared, operation, member, found, fields ▸ missing, omits⟩

end ApiForge.TypeScript
