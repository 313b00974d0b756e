import ApiForge.Proofs.Naming.Forms
import ApiForge.Proofs.TypeScript.DistinctNames

/-!
# Reserved names

The files use names that they do not declare: the built-in types, and what the
fixed lines of the client mention. Declared names are compared with each other
only. The types of operations end in a suffix, which keeps them from all of these
names but one; a named schema can take the name of every built-in type.
-/

namespace ApiForge.TypeScript

/-- The type names that have a meaning without a declaration. -/
def builtinTypeNames : List Text :=
  ["string", "number", "boolean", "null", "unknown", "never", "void", "Blob", "Record"]

example : ∀ type : Builtin, type.name ∈ builtinTypeNames := by
  intro type
  cases type <;> decide

/-- The names that the fixed lines of every client use. -/
def fixedNames : List Text :=
  ["Response", "RequestInit", "BodyInit", "URLSearchParams", "FormData", "Blob", "ApiError",
    "ClientConfig", "encodeBody"]

/-- The identifier that a name begins with. A name that is used as it is may have a line feed after
its identifier. -/
def identifierIn (name : Text) : Text :=
  name.takeWhile Naming.isIdentifierPart

/-- The identifiers that a file of types declares. -/
def TypesFile.identifiers (file : TypesFile) : List Text :=
  file.names.map identifierIn

/-! ## Identifiers of schemas -/

theorem identifierIn_of_isIdentifier {name : Text} (identified : Naming.isIdentifier name = true) :
    identifierIn name = name :=
  List.takeWhile_eq_self_iff.mpr (Naming.isIdentifierPart_of_mem identified)

theorem identifierIn_lineFeed {name : Text} (identified : Naming.isIdentifier name = true) :
    identifierIn (name ++ ['\n']) = name := by
  unfold identifierIn
  rw [List.takeWhile_append_of_pos (Naming.isIdentifierPart_of_mem identified)]
  exact List.append_nil name

/-- The identifier of a schema's type is the schema's name or, if that is no identifier, its Pascal
form. -/
theorem identifierIn_schemaType_eq_iff (name : Text) {word : Text}
    (identified : Naming.isIdentifier word = true) :
    identifierIn (Naming.schemaType name) = word ↔
      name = word ∨ name = word ++ ['\n'] ∨
        (Naming.isPlain name = false ∧ Naming.pascal name = word) := by
  unfold Naming.schemaType
  cases plain : Naming.isPlain name with
  | false =>
      have unlike : ¬ (name = word ∨ name = word ++ ['\n']) := by
        intro alike
        rw [Naming.isPlain_iff.mpr ⟨word, identified, alike⟩] at plain
        cases plain
      rw [if_neg Bool.false_ne_true, identifierIn_of_isIdentifier (Naming.isIdentifier_pascal name)]
      tauto
  | true =>
      rw [if_pos rfl]
      obtain ⟨own, ownIdentified, rfl | rfl⟩ := Naming.isPlain_iff.mp plain
      · rw [identifierIn_of_isIdentifier ownIdentified]
        have unended : name ≠ word ++ ['\n'] := by
          rintro rfl
          rw [Naming.not_isIdentifier_feed] at ownIdentified
          cases ownIdentified
        simp [unended]
      · rw [identifierIn_lineFeed ownIdentified]
        have ended : own ++ ['\n'] ≠ word := by
          rintro rfl
          rw [Naming.not_isIdentifier_feed] at identified
          cases identified
        simp [ended]

/-! ## Identifiers of operations -/

theorem isIdentifier_append {name rest : Text} (identified : Naming.isIdentifier name = true)
    (parts : rest.all Naming.isIdentifierPart = true) :
    Naming.isIdentifier (name ++ rest) = true := by
  cases name with
  | nil => cases identified
  | cons first others =>
      rw [Naming.isIdentifier, Bool.and_eq_true] at identified
      rw [List.cons_append, Naming.isIdentifier, identified.1, Bool.true_and, List.all_append,
        identified.2, parts, Bool.true_and]

/-- The types of operations are identifiers, made of a Pascal form and a suffix. -/
theorem exists_suffix_of_mem_operationTypes {operation : Operation} {type : Text}
    (member : type ∈ operationTypes operation) :
    ∃ suffix ∈ suffixes, type = Naming.pascal operation.identifier ++ suffix ∧
      identifierIn type = type := by
  rw [operationTypes_eq_map, List.mem_map] at member
  obtain ⟨suffix, inSuffixes, rfl⟩ := member
  have listed : suffix ∈ suffixes := (suffixesOf_sublist operation).subset inSuffixes
  have parts : ∀ suffix ∈ suffixes, suffix.all Naming.isIdentifierPart = true := by decide
  exact ⟨suffix, listed, rfl, identifierIn_of_isIdentifier
    (isIdentifier_append (Naming.isIdentifier_pascal _) (parts suffix listed))⟩

/-- No type of an operation has the name of a built-in type. -/
theorem not_mem_operationTypes_of_builtin {word : Text} (builtin : word ∈ builtinTypeNames)
    (operation : Operation) : word ∉ operationTypes operation := by
  intro member
  obtain ⟨suffix, listed, same, _⟩ := exists_suffix_of_mem_operationTypes member
  have unended : ∀ word ∈ builtinTypeNames, ∀ suffix ∈ suffixes, ¬ suffix <:+ word := by decide
  exact unended word builtin suffix listed ⟨_, same.symm⟩

theorem mem_operationTypes_params {operation : Operation} :
    Naming.operationType operation.identifier Naming.paramsSuffix ∈ operationTypes operation ↔
      operation.fields ≠ [] := by
  rw [operationTypes_eq_map, List.mem_map]
  constructor
  · rintro ⟨suffix, listed, same⟩ none
    have suffixed : suffix = Naming.paramsSuffix := List.append_cancel_left same
    have absent : Naming.paramsSuffix ∉ [Naming.requestSuffix, Naming.responseSuffix] := by decide
    unfold suffixesOf at listed
    rw [none, suffixed, if_pos List.isEmpty_nil, List.nil_append] at listed
    refine absent ?_
    rcases List.mem_append.mp listed with inRequest | inResponse
    · split at inRequest
      · exact List.mem_append_left _ inRequest
      · cases inRequest
    · exact List.mem_cons_of_mem _ inResponse
  · intro filled
    refine ⟨Naming.paramsSuffix, ?_, rfl⟩
    unfold suffixesOf
    rw [if_neg (by simpa using filled)]
    exact List.mem_append_left _ (List.mem_append_left _ (List.mem_singleton_self _))

/-- Of the names in the fixed lines, an operation's type can only be that of a query: the
operation's identifier has the Pascal form `URLSearch`, and there are parameters. -/
theorem mem_operationTypes_iff_of_fixed {word : Text} (fixed : word ∈ fixedNames)
    (operation : Operation) :
    word ∈ operationTypes operation ↔
      word = "URLSearchParams".toList ∧
        Naming.pascal operation.identifier = "URLSearch".toList ∧ operation.fields ≠ [] := by
  have split : "URLSearchParams".toList = "URLSearch".toList ++ Naming.paramsSuffix := by decide
  constructor
  · intro member
    obtain ⟨suffix, listed, same, _⟩ := exists_suffix_of_mem_operationTypes member
    have ends : ∀ word ∈ fixedNames, ∀ suffix ∈ suffixes, suffix <:+ word →
        word = suffix ∨ (word = "URLSearchParams".toList ∧ suffix = Naming.paramsSuffix) := by
      decide
    rcases ends word fixed suffix listed ⟨_, same.symm⟩ with bare | ⟨rfl, rfl⟩
    · have none : Naming.pascal operation.identifier = [] := by
        rw [bare] at same
        exact List.append_left_eq_self.mp same.symm
      have identified := Naming.isIdentifier_pascal operation.identifier
      rw [none] at identified
      cases identified
    · have pascal : Naming.pascal operation.identifier = "URLSearch".toList := by
        rw [split] at same
        exact (List.append_cancel_right same).symm
      rw [same] at member
      exact ⟨rfl, pascal, mem_operationTypes_params.mp member⟩
  · rintro ⟨rfl, pascal, filled⟩
    rw [split, ← pascal]
    exact mem_operationTypes_params.mpr filled

/-! ## Captured names -/

/-- Exactly these declarations capture a name that the files rely on. A built-in type is declared if
a named schema has its name, or a name that is no identifier and has it as its Pascal form. A name
of the client's fixed lines is imported if it is `URLSearchParams` and an operation with parameters
has the Pascal form `URLSearch`. -/
theorem captured_iff_of_files {api : Api} {file : TypesFile} {clientName : Text}
    {client : ClientFile} (declared : TypesFile.ofApi api = .ok file)
    (made : ClientFile.ofApi api clientName = .ok client) :
    (∀ word ∈ builtinTypeNames, word ∈ file.identifiers ↔
      ∃ schema ∈ api.schemas.map (·.1), schema = word ∨ schema = word ++ ['\n'] ∨
        (Naming.isPlain schema = false ∧ Naming.pascal schema = word)) ∧
      ∀ word ∈ fixedNames, word ∈ client.imports ↔
        word = "URLSearchParams".toList ∧ ∃ operation ∈ api.operations,
          Naming.pascal operation.identifier = "URLSearch".toList ∧ operation.fields ≠ [] := by
  have identified : ∀ word ∈ builtinTypeNames, Naming.isIdentifier word = true := by decide
  constructor
  · intro word builtin
    have ofSchema (schema : Text) :=
      identifierIn_schemaType_eq_iff schema (identified word builtin)
    unfold TypesFile.identifiers
    rw [names_ofApi declared, List.map_append, List.map_map, List.mem_append]
    constructor
    · rintro (inSchemas | inOperations)
      · obtain ⟨entry, listed, same⟩ := List.mem_map.mp inSchemas
        exact ⟨entry.1, List.mem_map.mpr ⟨entry, listed, rfl⟩, (ofSchema entry.1).mp same⟩
      · obtain ⟨type, listed, same⟩ := List.mem_map.mp inOperations
        obtain ⟨operation, _, inTypes⟩ := List.mem_flatMap.mp listed
        obtain ⟨_, _, _, whole⟩ := exists_suffix_of_mem_operationTypes inTypes
        rw [← whole, same] at inTypes
        exact absurd inTypes (not_mem_operationTypes_of_builtin builtin operation)
    · rintro ⟨schema, listed, taken⟩
      obtain ⟨entry, inSchemas, rfl⟩ := List.mem_map.mp listed
      exact .inl (List.mem_map.mpr ⟨entry, inSchemas, (ofSchema entry.1).mpr taken⟩)
  · intro word fixed
    obtain ⟨_, _, made⟩ := Success.of_bind made
    cases made
    rw [Text.mem_distinct, List.mem_flatMap]
    simp only [mem_operationTypes_iff_of_fixed fixed]
    tauto

/-- An API with one named schema and one operation, which has a parameter in its query. -/
def searchApi (schema operation : Text) : Api where
  title := "Search"
  version := "1"
  description := none
  baseUrl := none
  operations := [{
    identifier := operation, method := .get, path := "/search", summary := none
    description := none, tags := []
    parameters := [{
      name := "q", location := .query, required := true, type := "string", format := none
      itemsType := none, description := none }]
    body := none, responses := [], deprecated := false }]
  schemas := [(schema, .primitive .none .string)]
  tags := []

theorem captured_iff_of_searchApi :
    ∃ file, TypesFile.ofApi (searchApi "re-cord" "search") = .ok file ∧
      ∃ client, ClientFile.ofApi (searchApi "re-cord" "search") "TestClient" = .ok client ∧
        (∀ word ∈ builtinTypeNames, word ∉ file.identifiers) ∧
        ∀ word ∈ fixedNames, word ∉ client.imports := by
  have declared : TypesFile.ofApi (searchApi "re-cord" "search") = .ok _ := rfl
  have made : ClientFile.ofApi (searchApi "re-cord" "search") "TestClient" = .ok _ := rfl
  obtain ⟨builtin, fixed⟩ := captured_iff_of_files declared made
  refine ⟨_, declared, _, made, ?_, ?_⟩
  · intro word listed
    rw [builtin word listed]
    revert word
    decide
  · intro word listed
    rw [fixed word listed]
    revert word
    decide

/-- A schema can take the name of the built-in type of records, and an operation can take the name
that the client uses for its queries. -/
theorem captured_of_record :
    ∃ file, TypesFile.ofApi (searchApi "Record" "URLSearch") = .ok file ∧
      ∃ client, ClientFile.ofApi (searchApi "Record" "URLSearch") "TestClient" = .ok client ∧
        (∃ word ∈ builtinTypeNames, word ∈ file.names) ∧
        ∃ word ∈ fixedNames, word ∈ client.imports := by
  refine ⟨_, rfl, _, rfl, ⟨"Record", ?_, ?_⟩, ⟨"URLSearchParams", ?_, ?_⟩⟩ <;> decide

end ApiForge.TypeScript
