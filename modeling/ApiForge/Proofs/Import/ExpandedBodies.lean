import ApiForge.Proofs.Import.ExpandedParameters

/-!
# Bodies and responses of expanded documents

Bodies and responses that are imported from a document and from its expansion
differ in their schemas only. The content types are listed in the same order, and
the same one is picked.
-/

namespace ApiForge

/-- The body with nothing known about its schema. -/
def RequestBody.outline (body : RequestBody) : RequestBody :=
  { body with schema := .unknown }

/-- The response with nothing known about its schema but whether there is one. -/
def Response.outline (response : Response) : Response :=
  { response with schema := response.schema.map fun _ => .unknown }

namespace Import

open Reference (IsExpanded IsFree IsPlain ofValue?)

variable {source copy : Source} {root : Value}

/-! ## Content types -/

theorem firstJson?_eq {types copies : List Value}
    (pairs : List.Forall₂ (IsExpanded root) types copies) (free : AreFreeUpToJson types) :
    firstJson? copies = firstJson? types := by
  induction pairs with
  | nil => rfl
  | @cons type copy rest others here _ ih =>
      obtain ⟨first, after⟩ := free
      rw [here.eq_of_isFree first, firstJson?, firstJson?]
      cases mentioned : type.mentions? "json" with
      | none => rfl
      | some json =>
          cases json with
          | true => rfl
          | false => exact ih (after mentioned)

theorem isFree_of_firstJson? {types : List Value} (free : AreFreeUpToJson types) {type : Value}
    (found : firstJson? types = .ok (some type)) : IsFree type := by
  induction types with
  | nil => cases found
  | cons first rest ih =>
      obtain ⟨here, after⟩ := free
      obtain ⟨json, mentioned, found⟩ := Success.of_bind found
      cases json with
      | true =>
          cases found
          exact here
      | false => exact ih (after (Success.of_foreseen mentioned)) found

theorem head?_eq {types copies : List Value}
    (pairs : List.Forall₂ (IsExpanded root) types copies) (free : AreFreeUpToJson types) :
    copies.head? = types.head? := by
  cases pairs with
  | nil => rfl
  | cons here _ =>
      rw [List.head?_cons, List.head?_cons, here.eq_of_isFree free.1]

theorem pickContentType_eq {content expanded : Value} (known : IsExpanded root content expanded)
    (places : ContentTypePlaces content) : pickContentType expanded = pickContentType content := by
  have elements := areExpanded_elements? known places.plain
  unfold pickContentType
  cases listed : content.elements? with
  | none =>
      rw [listed] at elements
      cases others : expanded.elements? with
      | none => rfl
      | some copies =>
          rw [others] at elements
          cases elements
  | some types =>
      obtain ⟨copies, others, pairs⟩ := exists_of_rel_some elements listed
      have free := places.each types listed
      rw [others]
      change (firstJson? copies >>= fun json => _) = (firstJson? types >>= fun json => _)
      rw [firstJson?_eq pairs free, head?_eq pairs free]

theorem isFree_of_pickContentType {content contentType : Value} (places : ContentTypePlaces content)
    (picked : pickContentType content = .ok (some contentType)) : IsFree contentType := by
  obtain ⟨types, listed, picked⟩ := Success.of_bind picked
  obtain ⟨json, found, picked⟩ := Success.of_bind picked
  have free := places.each types (Success.of_foreseen listed)
  cases json with
  | some type =>
      cases picked
      exact isFree_of_firstJson? free found
  | none =>
      cases types with
      | nil => cases picked
      | cons first rest =>
          cases picked
          exact free.1

/-- What is said about a content type in the document is expanded to what is said in the copy. -/
theorem isExpanded_mediaOf {content expanded : Value} (known : IsExpanded root content expanded)
    (plain : ofValue? content = none) {contentType media other : Value}
    (first : mediaOf content contentType = .ok media)
    (second : mediaOf expanded contentType = .ok other) : IsExpanded root media other := by
  obtain ⟨entries, found, first⟩ := Success.of_bind first
  obtain ⟨copies, led, second⟩ := Success.of_bind second
  have entered := (known.copy plain).entries?
  rw [Success.of_foreseen found, Success.of_foreseen led] at entered
  cases entered with
  | some alike =>
      cases contentType with
      | scalar key =>
          cases first
          cases second
          exact isExpanded_getD (alike.find? key) rfl
      | _ => cases first

/-! ## Bodies -/

theorem checkedBody_eq {required : Bool} {schema : Schema} {description contentType : Value}
    {body : RequestBody}
    (success : checkedBody required schema description contentType = .ok body) :
    ∃ described type, (Checked.optionalText description).within "description" = .ok described ∧
      (Checked.text contentType).within "content_type" = .ok type ∧
      body = makeBody required schema described type := by
  obtain ⟨_, type, made, typed, rfl⟩ := Success.of_and (Success.of_orAbort success)
  obtain ⟨described, checked, rfl⟩ := Success.of_checkedMap made
  exact ⟨described, type, checked, typed, rfl⟩

/-- Bodies are alike whose checked fields come from equal or expanded values. -/
theorem checkedBody_alike {required : Bool} {schema otherSchema : Schema}
    {description expanded contentType : Value} (known : IsExpanded root description expanded)
    {body other : RequestBody}
    (first : checkedBody required schema description contentType = .ok body)
    (second : checkedBody required otherSchema expanded contentType = .ok other) :
    other.outline = body.outline := by
  obtain ⟨described, type, checked, typed, rfl⟩ := checkedBody_eq first
  obtain ⟨otherDescribed, otherType, otherChecked, otherTyped, rfl⟩ := checkedBody_eq second
  cases typed.symm.trans otherTyped
  rw [optionalText_eq known checked otherChecked]
  rfl

theorem bodyOf_alike (expands : ExpandsTo source copy) {node expanded : Value}
    (known : IsExpanded source.root node expanded) (places : AtTarget source BodyPlaces node)
    {body other : Option RequestBody} (first : bodyOf source node = .ok body)
    (second : bodyOf copy expanded = .ok other) :
    other.map (·.outline) = body.map (·.outline) := by
  obtain ⟨found, followed, first⟩ := Success.of_bind first
  obtain ⟨led, otherFollowed, second⟩ := Success.of_bind second
  cases areCopies_of_followEntries? expands known places followed otherFollowed with
  | none =>
      cases first
      cases second
      rfl
  | @some entries copies alike =>
      obtain ⟨content, required⟩ := (places entries followed).2
      have contents := isExpanded_fieldOr (alike.field? "content") (.map []) rfl
        content.plain.notReference
      obtain ⟨picked, found, first⟩ := Success.of_bind first
      obtain ⟨otherPicked, otherFound, second⟩ := Success.of_bind second
      rw [pickContentType_eq contents content] at otherFound
      cases found.symm.trans otherFound
      cases picked with
      | none =>
          cases first
          cases second
          rfl
      | some contentType =>
          obtain ⟨media, _, first⟩ := Success.of_bind first
          obtain ⟨inside, _, first⟩ := Success.of_bind first
          obtain ⟨schema, _, first⟩ := Success.of_bind first
          obtain ⟨checked, made, rfl⟩ := Success.of_map first
          obtain ⟨otherMedia, _, second⟩ := Success.of_bind second
          obtain ⟨otherInside, _, second⟩ := Success.of_bind second
          obtain ⟨otherSchema, _, second⟩ := Success.of_bind second
          obtain ⟨otherChecked, otherMade, rfl⟩ := Success.of_map second
          rw [holds_fieldOrNull_eq alike (required contentType found)] at otherMade
          exact congrArg some
            (checkedBody_alike (isExpanded_fieldOrNull alike "description") made otherMade)

/-! ## Bodies of the older dialect -/

theorem isExpanded_inherited (expands : ExpandsTo source copy) {name : Text}
    {operation copies : Entries}
    (alike : operation.AreCopies (IsExpanded source.root) copies)
    (plain : ofValue? (inherited source name operation) = none) :
    IsExpanded source.root (inherited source name operation) (inherited copy name copies) :=
  isExpanded_fieldOr_of (alike.field? name)
    (isExpanded_fieldOr (expands.entries.field? name) (.list []) rfl) plain

theorem bodyOfParameter_alike (expands : ExpandsTo source copy)
    {operation operationCopy parameter parameterCopy : Entries}
    (ofOperation : operation.AreCopies (IsExpanded source.root) operationCopy)
    (ofParameter : parameter.AreCopies (IsExpanded source.root) parameterCopy)
    (types : ContentTypePlaces (inherited source "consumes" operation))
    (required : HasPlain "required" parameter) {body other : RequestBody}
    (first : bodyOfParameter source operation parameter = .ok body)
    (second : bodyOfParameter copy operationCopy parameterCopy = .ok other) :
    other.outline = body.outline := by
  obtain ⟨consumed, listed, first⟩ := Success.of_bind first
  obtain ⟨json, found, first⟩ := Success.of_bind first
  obtain ⟨schema, _, first⟩ := Success.of_bind first
  obtain ⟨otherConsumed, otherListed, second⟩ := Success.of_bind second
  obtain ⟨otherJson, otherFound, second⟩ := Success.of_bind second
  obtain ⟨otherSchema, _, second⟩ := Success.of_bind second
  have elements := areExpanded_elements?
    (isExpanded_inherited expands ofOperation types.plain.notReference) types.plain
  rw [Success.of_foreseen listed, Success.of_foreseen otherListed] at elements
  cases elements with
  | some pairs =>
      rw [firstJson?_eq pairs (types.each consumed (Success.of_foreseen listed))] at otherFound
      cases found.symm.trans otherFound
      rw [holds_fieldOrNull_eq ofParameter required] at second
      exact checkedBody_alike (isExpanded_fieldOrNull ofParameter "description") first second

/-- What a form says about its body is whether there is a required part and whether there is a
file. -/
theorem outline_of_bodyOfForm {form : List Entries} {body : Option RequestBody}
    (success : bodyOfForm source form = .ok body) :
    body.map (·.outline) =
      if form.isEmpty then none
      else some {
        required := form.any isRequired
        description := none
        contentType :=
          if form.any fun entries => (Value.fieldOrNull "type" entries).isText "file" then
            "multipart/form-data"
          else "application/x-www-form-urlencoded"
        schema := .unknown } := by
  unfold bodyOfForm at success
  split at success
  · next empty =>
      cases success
      rw [if_pos empty]
      rfl
  · next filled =>
      obtain ⟨properties, _, success⟩ := Success.of_bind success
      cases success
      have required : (!((form.filter isRequired).map (displayedField "name")).isEmpty) =
          form.any isRequired := by
        rw [List.isEmpty_map, Bool.eq_iff_iff]
        simp [List.filter_eq_nil_iff]
      rw [if_neg filled, ← required]
      rfl

/-- Mappings of parameters that are in the same place. -/
structure IsPlacedCopy (root : Value) (entries copies : Entries) : Prop where
  alike : entries.AreCopies (IsExpanded root) copies
  placed : HasFree "in" entries

theorem IsPlacedCopy.isIn {entries copies : Entries} (pair : IsPlacedCopy root entries copies)
    (location : Text) : isIn location copies = isIn location entries := by
  unfold Import.isIn
  rw [fieldOrNull_eq_of_hasFree pair.alike pair.placed]

theorem bodyOfForm_alike {form copies : List Entries}
    (pairs : List.Forall₂ (IsPlacedCopy root) form copies)
    (places : ∀ entries ∈ form, HasPlain "required" entries ∧ HasPlain "type" entries)
    {body other : Option RequestBody} (first : bodyOfForm source form = .ok body)
    (second : bodyOfForm copy copies = .ok other) :
    other.map (·.outline) = body.map (·.outline) := by
  have known := Success.forall₂_of_mem pairs
    fun entries member copy here => And.intro here (places entries member)
  have empty : copies.isEmpty = form.isEmpty := by cases pairs <;> rfl
  have required : copies.any isRequired = form.any isRequired :=
    Success.any_eq_of_forall₂ known fun entries copies here =>
      holds_fieldOrNull_eq here.1.alike here.2.1
  have file : (copies.any fun entries => (Value.fieldOrNull "type" entries).isText "file") =
      form.any fun entries => (Value.fieldOrNull "type" entries).isText "file" :=
    Success.any_eq_of_forall₂ known fun entries copies here =>
      (((isExpanded_fieldOrNull here.1.alike "type").copy
        (ofValue?_fieldOrNull here.2.2)).isText "file").symm
  rw [outline_of_bodyOfForm first, outline_of_bodyOfForm second, empty, required, file]

theorem bodyOfParameters_alike (expands : ExpandsTo source copy)
    {operation operationCopy : Entries}
    (ofOperation : operation.AreCopies (IsExpanded source.root) operationCopy)
    {merged copies : List Entries} (pairs : List.Forall₂ (IsPlacedCopy source.root) merged copies)
    (places : MergedBodyPlaces source operation merged) {body other : Option RequestBody}
    (first : bodyOfParameters source operation merged = .ok body)
    (second : bodyOfParameters copy operationCopy copies = .ok other) :
    other.map (·.outline) = body.map (·.outline) := by
  have chosen := Success.rel_find? pairs fun entries copies here => here.isIn "body"
  unfold bodyOfParameters at first second
  unfold MergedBodyPlaces at places
  generalize merged.find? (isIn "body") = parameter at chosen places first
  generalize copies.find? (isIn "body") = parameterCopy at chosen second
  cases chosen with
  | some here =>
      obtain ⟨made, imported, rfl⟩ := Success.of_map first
      obtain ⟨otherMade, otherImported, rfl⟩ := Success.of_map second
      exact congrArg some (bodyOfParameter_alike expands ofOperation here.alike places.1 places.2
        imported otherImported)
  | none =>
      have forms := Success.forall₂_filter pairs fun entries copies here => here.isIn "formData"
      exact bodyOfForm_alike forms places first second

/-! ## Responses -/

/-- A content type and a schema: the type of the second pair is expanded from that of the first one,
and both have a schema or none. -/
structure AnswerAlike (root : Value) (answer other : Value × Option Schema) : Prop where
  type : IsExpanded root answer.1 other.1
  schema : other.2.isSome = answer.2.isSome

/-- The content type that is taken where none mentions JSON. -/
def fallbackOf (produces : Value) : Option Value :=
  if produces.holds then produces.first? else some (.str "application/json")

theorem producedBy_eq {operation response : Entries} {node : Value}
    (carried : Entries.field? "schema" response = some node) {answer : Value × Option Schema}
    (success : producedBy source operation response = .ok answer) :
    ∃ types fallback json schema,
      (inherited source "produces" operation).elements? = some types ∧
        fallbackOf (inherited source "produces" operation) = some fallback ∧
        firstJson? types = .ok json ∧ answer = (json.getD fallback, some schema) := by
  unfold producedBy at success
  rw [carried] at success
  obtain ⟨types, listed, success⟩ := Success.of_bind success
  dsimp only at success
  unfold fallbackOf
  split at success
  · next holds =>
      obtain ⟨fallback, first, success⟩ := Success.of_bind success
      obtain ⟨json, found, success⟩ := Success.of_bind success
      obtain ⟨schema, _, success⟩ := Success.of_bind success
      cases success
      rw [if_pos holds]
      exact ⟨types, fallback, json, schema, Success.of_foreseen listed, Success.of_foreseen first,
        found, rfl⟩
  · next holds =>
      obtain ⟨fallback, given, success⟩ := Success.of_bind success
      obtain ⟨json, found, success⟩ := Success.of_bind success
      obtain ⟨schema, _, success⟩ := Success.of_bind success
      cases success
      cases given
      rw [if_neg holds]
      exact ⟨types, _, json, schema, Success.of_foreseen listed, rfl, found, rfl⟩

theorem areExpanded_fallbackOf {produces expanded : Value}
    (known : IsExpanded root produces expanded) (plain : IsPlain produces) :
    AreExpanded root (fallbackOf produces) (fallbackOf expanded) := by
  unfold fallbackOf
  rw [← (known.copy plain.notReference).holds]
  split
  · exact areExpanded_first? known plain
  · exact .some (.free rfl)

theorem producedBy_alike (expands : ExpandsTo source copy)
    {operation operationCopy response responseCopy : Entries}
    (ofOperation : operation.AreCopies (IsExpanded source.root) operationCopy)
    (ofResponse : response.AreCopies (IsExpanded source.root) responseCopy)
    (places : ∀ node, Entries.field? "schema" response = some node →
      ContentTypePlaces (inherited source "produces" operation))
    {answer other : Value × Option Schema}
    (first : producedBy source operation response = .ok answer)
    (second : producedBy copy operationCopy responseCopy = .ok other) :
    AnswerAlike source.root answer other := by
  have known := ofResponse.field? "schema"
  cases carried : Entries.field? "schema" response with
  | none =>
      unfold producedBy at first second
      rw [carried] at first
      rw [eq_none_of_rel known carried] at second
      cases first
      cases second
      exact ⟨.free rfl, rfl⟩
  | some node =>
      obtain ⟨nodeCopy, otherCarried, _⟩ := exists_of_rel_some known carried
      have types := places node carried
      have produced := isExpanded_inherited expands ofOperation types.plain.notReference
      obtain ⟨listed, fallback, json, schema, elements, fallen, found, rfl⟩ :=
        producedBy_eq carried first
      obtain ⟨otherListed, otherFallback, otherJson, otherSchema, otherElements, otherFallen,
        otherFound, rfl⟩ := producedBy_eq otherCarried second
      have pairs := areExpanded_elements? produced types.plain
      rw [elements, otherElements] at pairs
      have free := types.each listed elements
      cases pairs with
      | some pairs =>
          rw [firstJson?_eq pairs free] at otherFound
          cases found.symm.trans otherFound
          refine ⟨?_, rfl⟩
          cases json with
          | some type => exact .free (isFree_of_firstJson? free found)
          | none =>
              have left := areExpanded_fallbackOf produced types.plain
              rw [fallen, otherFallen] at left
              cases left with
              | some here => exact here

theorem answer_of_media {media contentType : Value} {answer : Value × Option Schema}
    (success : (match media.entries?.bind (Entries.field? "schema") with
      | some node => do
          let schema ← schemaOf source node
          pure (contentType, some schema)
      | none => pure (contentType, none)) = .ok answer) :
    answer.1 = contentType ∧ answer.2.isSome = (media.field? "schema").isSome := by
  have read : media.entries?.bind (Entries.field? "schema") = media.field? "schema" := by
    cases media <;> rfl
  rw [read] at success
  split at success
  · next node carried =>
      obtain ⟨schema, _, success⟩ := Success.of_bind success
      cases success
      exact ⟨rfl, by rw [carried]; rfl⟩
  · next carried =>
      cases success
      exact ⟨rfl, by rw [carried]; rfl⟩

theorem contentOf_eq {response : Entries} {answer : Value × Option Schema} {contentType : Value}
    (picked : pickContentType (Value.fieldOr "content" response (.map [])) = .ok (some contentType))
    (success : contentOf source response = .ok answer) :
    ∃ media, (if contentType.holds then
        mediaOf (Value.fieldOr "content" response (.map [])) contentType
      else pure .null) = .ok media ∧
      answer.1 = contentType ∧ answer.2.isSome = (media.field? "schema").isSome := by
  obtain ⟨_, found, success⟩ := Success.of_bind success
  cases picked.symm.trans found
  dsimp only at success
  split at success
  · next holds =>
      obtain ⟨media, said, success⟩ := Success.of_bind success
      rw [if_pos holds]
      exact ⟨media, said, answer_of_media success⟩
  · next holds =>
      obtain ⟨media, said, success⟩ := Success.of_bind success
      rw [if_neg holds]
      exact ⟨media, said, answer_of_media success⟩

theorem isSome_eq_of_areExpanded {first second : Option Value}
    (known : AreExpanded root first second) : second.isSome = first.isSome := by
  cases known <;> rfl

theorem contentOf_alike {response responseCopy : Entries}
    (alike : response.AreCopies (IsExpanded root) responseCopy)
    (places : ContentPlaces (Value.fieldOr "content" response (.map [])))
    {answer other : Value × Option Schema} (first : contentOf source response = .ok answer)
    (second : contentOf copy responseCopy = .ok other) : AnswerAlike root answer other := by
  have plain := places.types.plain.notReference
  have contents := isExpanded_fieldOr (alike.field? "content") (.map []) rfl plain
  have picks := pickContentType_eq contents places.types
  obtain ⟨picked, found, made⟩ := Success.of_bind first
  have otherFound := picks.trans found
  cases picked with
  | none =>
      cases made
      obtain ⟨otherPicked, there, otherMade⟩ := Success.of_bind second
      cases otherFound.symm.trans there
      cases otherMade
      exact ⟨.free rfl, rfl⟩
  | some contentType =>
      obtain ⟨media, said, type, schema⟩ := contentOf_eq found first
      obtain ⟨otherMedia, otherSaid, otherType, otherSchema⟩ := contentOf_eq otherFound second
      have known : IsExpanded root media otherMedia ∧ ofValue? media = none := by
        split at said
        · next holds =>
            rw [if_pos holds] at otherSaid
            exact ⟨isExpanded_mediaOf contents plain said otherSaid,
              places.media contentType found holds media said⟩
        · next holds =>
            rw [if_neg holds] at otherSaid
            cases said
            cases otherSaid
            exact ⟨.free rfl, rfl⟩
      have carried := isSome_eq_of_areExpanded ((known.1.copy known.2).field? "schema")
      refine ⟨?_, by rw [otherSchema, schema, carried]⟩
      rw [type, otherType]
      exact .free (isFree_of_pickContentType places.types found)

theorem responseOf_eq {operation : Entries} {status : Text} {node : Value}
    {response : Option Response} (proper : status.startsWith "x-" = false)
    (success : responseOf source operation status node = .ok response) :
    ∃ found, source.followEntries? node = .ok found ∧
      (∀ entries, found = some entries → ∃ answer description contentType,
        (match source.dialect with
          | .swagger => producedBy source operation entries
          | .openApi => contentOf source entries) = .ok answer ∧
        (Checked.text (Value.fieldOr "description" entries (.str []))).within "description" =
          .ok description ∧
        (Checked.optionalText answer.1).within "content_type" = .ok contentType ∧
        response = some (makeResponse status answer.2 description contentType)) ∧
      (found = none → response = none) := by
  unfold responseOf at success
  rw [proper, if_neg Bool.false_ne_true] at success
  obtain ⟨found, followed, success⟩ := Success.of_bind success
  refine ⟨found, followed, ?_, ?_⟩
  · rintro entries rfl
    dsimp only at success
    -- Both dialects go on in the same way once they have an answer.
    generalize source.dialect = dialect at success ⊢
    cases dialect
    all_goals
      obtain ⟨answer, answered, success⟩ := Success.of_bind success
      obtain ⟨made, checked, rfl⟩ := Success.of_map success
      obtain ⟨_, contentType, made, typed, rfl⟩ := Success.of_and (Success.of_orAbort checked)
      obtain ⟨description, described, rfl⟩ := Success.of_checkedMap made
      exact ⟨answer, description, contentType, answered, described, typed, rfl⟩
  · rintro rfl
    exact (Except.ok.inj success).symm

theorem unknown_eq_of_isSome {schema other : Option Schema} (same : other.isSome = schema.isSome) :
    (other.map fun _ => Schema.unknown) = schema.map fun _ => Schema.unknown := by
  cases schema <;> cases other <;> first | rfl | cases same

/-- A response is imported alike from a node and from its expansion. -/
theorem responseOf_alike (expands : ExpandsTo source copy) {operation operationCopy : Entries}
    (ofOperation : operation.AreCopies (IsExpanded source.root) operationCopy) {status : Text}
    {node expanded : Value} (known : IsExpanded source.root node expanded)
    (places : status.startsWith "x-" = false →
      AtTarget source (ResponsePlaces source operation) node)
    {response other : Option Response}
    (first : responseOf source operation status node = .ok response)
    (second : responseOf copy operationCopy status expanded = .ok other) :
    other.map (·.outline) = response.map (·.outline) := by
  cases extension : status.startsWith "x-" with
  | true =>
      unfold responseOf at first second
      rw [if_pos extension] at first second
      cases first
      cases second
      rfl
  | false =>
      have target := places extension
      obtain ⟨found, followed, made, none⟩ := responseOf_eq extension first
      obtain ⟨led, otherFollowed, otherMade, otherNone⟩ := responseOf_eq extension second
      cases areCopies_of_followEntries? expands known target followed otherFollowed with
      | none => rw [none rfl, otherNone rfl]
      | @some entries copies alike =>
          obtain ⟨answer, description, contentType, answered, described, typed, rfl⟩ :=
            made entries rfl
          obtain ⟨otherAnswer, otherDescription, otherContentType, otherAnswered, otherDescribed,
            otherTyped, rfl⟩ := otherMade copies rfl
          have condition := (target entries followed).2
          have alikeAnswers : AnswerAlike source.root answer otherAnswer := by
            unfold ResponsePlaces at condition
            rw [expands.dialect] at otherAnswered
            generalize source.dialect = dialect at condition answered otherAnswered
            cases dialect with
            | swagger =>
                exact producedBy_alike expands ofOperation alike condition answered otherAnswered
            | openApi => exact contentOf_alike alike condition answered otherAnswered
          have text : Value.fieldOr "description" entries (.str []) = .str description :=
            Success.of_text described
          have descriptions := isExpanded_fieldOr (alike.field? "description") (.str []) rfl
            (by rw [text]; rfl)
          have schema := alikeAnswers.schema
          rw [text_eq descriptions described otherDescribed,
            optionalText_eq alikeAnswers.type typed otherTyped]
          simp only [Option.map_some, makeResponse, Response.outline, unknown_eq_of_isSome schema]

/-- The outlines of what is present are those of all, of which some are absent. -/
theorem map_filterMap_id {α β : Type} (function : α → β) (list : List (Option α)) :
    (list.filterMap id).map function = (list.map (Option.map function)).filterMap id := by
  rw [List.map_filterMap, List.filterMap_map]
  rfl

theorem responsesOf_alike (expands : ExpandsTo source copy) {operation operationCopy : Entries}
    (ofOperation : operation.AreCopies (IsExpanded source.root) operationCopy)
    (plain : HasPlain "responses" operation)
    (places : ∀ responses, Value.fieldEntries "responses" operation = .ok responses →
      ∀ entry ∈ responses, entry.1.display.startsWith "x-" = false →
        AtTarget source (ResponsePlaces source operation) entry.2)
    {responses others : List Response} (first : responsesOf source operation = .ok responses)
    (second : responsesOf copy operationCopy = .ok others) :
    others.map (·.outline) = responses.map (·.outline) := by
  obtain ⟨entries, listed, first⟩ := Success.of_bind first
  obtain ⟨found, traversed, first⟩ := Success.of_bind first
  obtain ⟨copies, otherListed, second⟩ := Success.of_bind second
  obtain ⟨led, otherTraversed, second⟩ := Success.of_bind second
  cases first
  cases second
  have pairs := areCopies_fieldEntries ofOperation plain listed otherListed
  have outlines : List.Forall₂ (fun response other : Option Response =>
      other.map (·.outline) = response.map (·.outline)) found led := by
    refine Success.forall₂_of_two_mapM pairs traversed otherTraversed ?_
    rintro ⟨key, node⟩ member ⟨_, expanded⟩ ⟨rfl, known⟩ response other first second
    exact responseOf_alike expands ofOperation known (places entries listed (key, node) member)
      first second
  rw [map_filterMap_id, map_filterMap_id,
    Success.map_eq_of_forall₂ outlines (Option.map (·.outline)) (Option.map (·.outline))
      fun _ _ same => same]

end Import

end ApiForge
