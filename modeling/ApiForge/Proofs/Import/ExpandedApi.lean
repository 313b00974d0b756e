import ApiForge.Proofs.Import.ExpandedOperations

/-!
# APIs of expanded documents

References can be followed during the import, or the document can be expanded
before it. Where references stand only for path items, parameters, bodies,
responses and schemas, and where those that the expansion keeps have plain paths,
the two ways give APIs that differ in schemas only.
-/

namespace ApiForge

/-- The API with nothing known about its schemas but where there are any. -/
def Api.outline (api : Api) : Api :=
  { api with
    operations := api.operations.map (·.outline)
    schemas := api.schemas.map (Prod.map id fun _ => .unknown) }

namespace Import

open Reference (IsExpanded IsFree IsPlain KeepsPlainPaths ofValue?)

variable {source copy : Source}

/-! ## Sources -/

theorem root_of_ofDocument {document : Value} (opened : Source.ofDocument document = .ok source) :
    document = source.root ∧ source.dialect = Dialect.ofEntries source.entries ∧
      source.dialect.definitions source.entries = .ok source.definitions ∧
      source.references.Nodup := by
  obtain ⟨entries, shown, opened⟩ := Success.of_bind opened
  obtain ⟨definitions, listed, opened⟩ := Success.of_bind opened
  cases opened
  refine ⟨?_, rfl, listed, Text.distinct_nodup _⟩
  have shown := Success.of_foreseen shown
  cases document with
  | map inside =>
      cases shown
      rfl
  | _ => cases shown

theorem dialect_eq {root : Value} {entries copies : Entries}
    (alike : entries.AreCopies (IsExpanded root) copies)
    (marker : Entries.contains (.str "openapi") entries = false → HasFree "swagger" entries) :
    Dialect.ofEntries copies = Dialect.ofEntries entries := by
  unfold Dialect.ofEntries
  rw [← alike.contains]
  cases newer : Entries.contains (.str "openapi") entries with
  | true => rfl
  | false => rw [field?_eq_of_hasFree alike (marker newer)]

theorem expandsTo_of_ofDocument {document expanded : Value}
    (success : Reference.expand document = .ok expanded) (paths : KeepsPlainPaths document)
    (opened : Source.ofDocument document = .ok source)
    (otherOpened : Source.ofDocument expanded = .ok copy) (places : ReferencePlaces source) :
    ExpandsTo source copy := by
  obtain ⟨rfl, dialect, _, distinct⟩ := root_of_ofDocument opened
  obtain ⟨rfl, otherDialect, _, _⟩ := root_of_ofDocument otherOpened
  have known : IsExpanded source.root source.root copy.root :=
    .reached (Reference.IsExpandedIn.start success)
  have alike : source.entries.AreCopies (IsExpanded source.root) copy.entries := by
    cases known.copy places.root with
    | map inside => exact inside
  refine ⟨success, paths, alike, ?_, distinct⟩
  rw [dialect, otherDialect, dialect_eq alike places.marker]

/-! ## Named schemas -/

theorem definitions_alike {root : Value} {dialect : Dialect} {entries copies : Entries}
    (alike : entries.AreCopies (IsExpanded root) copies) (places : DefinitionPlaces entries dialect)
    {found led : Entries} (first : dialect.definitions entries = .ok found)
    (second : dialect.definitions copies = .ok led) : found.AreCopies (IsExpanded root) led := by
  cases dialect with
  | swagger => exact areCopies_fieldEntries alike places first second
  | openApi =>
      obtain ⟨components, listed, first⟩ := Success.of_bind first
      obtain ⟨others, otherListed, second⟩ := Success.of_bind second
      have inside := areCopies_fieldEntries alike places.1 listed otherListed
      exact areCopies_fieldEntries inside (places.2 components listed) first second

/-- What is known of the named schemas without importing them. -/
theorem outline_of_namedSchemas {schemas : List (Text × Schema)}
    (success : namedSchemas source = .ok schemas) :
    schemas.map (Prod.map id fun _ => Schema.unknown) =
      Keyed.ofList (source.definitions.map fun entry => (entry.1.display, Schema.unknown)) := by
  obtain ⟨imported, traversed, success⟩ := Success.of_bind success
  cases success
  rw [Keyed.map_ofList]
  refine congrArg Keyed.ofList ?_
  refine Success.map_eq_of_mapM _ _ traversed fun entry result converted => ?_
  obtain ⟨schema, _, made⟩ := Success.of_bind converted
  cases made
  rfl

theorem namedSchemas_alike (keys : source.definitions.map (·.1) = copy.definitions.map (·.1))
    {schemas others : List (Text × Schema)} (first : namedSchemas source = .ok schemas)
    (second : namedSchemas copy = .ok others) :
    others.map (Prod.map id fun _ => Schema.unknown) =
      schemas.map (Prod.map id fun _ => Schema.unknown) := by
  have names := congrArg (List.map fun key : Scalar => (key.display, Schema.unknown)) keys
  rw [List.map_map, List.map_map] at names
  rw [outline_of_namedSchemas first, outline_of_namedSchemas second]
  exact congrArg Keyed.ofList names.symm

theorem definitions_of_expandsTo (expands : ExpandsTo source copy) {document expanded : Value}
    (opened : Source.ofDocument document = .ok source)
    (otherOpened : Source.ofDocument expanded = .ok copy) (places : ReferencePlaces source) :
    source.definitions.map (·.1) = copy.definitions.map (·.1) := by
  obtain ⟨_, _, listed, _⟩ := root_of_ofDocument opened
  obtain ⟨_, _, otherListed, _⟩ := root_of_ofDocument otherOpened
  rw [expands.dialect] at otherListed
  exact (definitions_alike expands.entries places.definitions listed otherListed).keys

/-! ## The base URL -/

theorem fillVariable_eq {root : Value} {key : Scalar} {value expanded : Value}
    (known : IsExpanded root value expanded) (plain : ofValue? value = none)
    (free : ∀ default, value.field? "default" = some default → IsFree default) (url : Text) :
    fillVariable url (key, expanded) = fillVariable url (key, value) := by
  have inside := (known.copy plain).field? "default"
  unfold fillVariable
  dsimp only
  cases given : value.field? "default" with
  | none => rw [eq_none_of_rel inside given]
  | some default =>
      obtain ⟨other, there, here⟩ := exists_of_rel_some inside given
      rw [there, here.eq_of_isFree (free default given)]

theorem foldl_fillVariable_eq {root : Value} {known copies : Entries}
    (alike : known.AreCopies (IsExpanded root) copies)
    (places : ∀ entry ∈ known, ofValue? entry.2 = none ∧
      ∀ value, entry.2.field? "default" = some value → IsFree value) (url : Text) :
    copies.foldl fillVariable url = known.foldl fillVariable url := by
  induction alike generalizing url with
  | nil => rfl
  | @cons entry other rest others here _ ih =>
      obtain ⟨key, value⟩ := entry
      obtain ⟨_, expanded⟩ := other
      obtain ⟨rfl, expands⟩ := here
      obtain ⟨plain, free⟩ := places _ List.mem_cons_self
      rw [List.foldl_cons, List.foldl_cons, fillVariable_eq expands plain free]
      exact ih (fun entry member => places entry (List.mem_cons_of_mem _ member)) _

theorem serverUrl_alike {root : Value} {server serverCopy : Entries}
    (alike : server.AreCopies (IsExpanded root) serverCopy) (places : VariablePlaces server)
    {url : Value} {text other : Text} (first : serverUrl server url = .ok text)
    (second : serverUrl serverCopy url = .ok other) : other = text := by
  obtain ⟨known, listed, first⟩ := Success.of_bind first
  obtain ⟨copies, otherListed, second⟩ := Success.of_bind second
  cases first
  cases second
  have inside := areCopies_fieldEntries alike places.known listed otherListed
  exact foldl_fillVariable_eq inside (places.each known listed) _

theorem serverBase_alike (expands : ExpandsTo source copy) (places : ServerPlaces source.entries)
    {base other : Value} (first : serverBase source = .ok base)
    (second : serverBase copy = .ok other) : other = base := by
  have plain := places.servers
  have known := isExpanded_fieldOr (expands.entries.field? "servers") (.list []) rfl
    plain.notReference
  have holds := (known.copy plain.notReference).holds
  have heads := areExpanded_first? known plain
  have condition := places.first
  unfold serverBase at first second
  dsimp only at first second
  rw [← holds] at second
  split at first
  · next empty =>
      rw [if_pos empty] at second
      exact Except.ok.inj (second.symm.trans first)
  · next held =>
      rw [if_neg held] at second
      obtain ⟨server, foremost, first⟩ := Success.of_bind first
      obtain ⟨serverCopy, otherForemost, second⟩ := Success.of_bind second
      rw [Success.of_foreseen foremost, Success.of_foreseen otherForemost] at heads
      obtain ⟨notReference, fields⟩ := condition server (Success.of_foreseen foremost)
      cases heads with
      | some here =>
          cases here.copy notReference with
          | @map server serverCopy alike =>
              obtain ⟨free, filled⟩ := fields server rfl
              dsimp only at first second
              rw [fieldOrNull_eq_of_hasFree alike free] at second
              split at first
              · next given =>
                  rw [if_pos given] at second
                  obtain ⟨text, made, rfl⟩ := Success.of_map first
                  obtain ⟨otherText, otherMade, rfl⟩ := Success.of_map second
                  rw [serverUrl_alike alike (filled given) made otherMade]
              · next missing =>
                  rw [if_neg missing] at second
                  exact Except.ok.inj (second.symm.trans first)
          | _ => exact Except.ok.inj (second.symm.trans first)

theorem hostBase_alike (expands : ExpandsTo source copy) (places : HostPlaces source.entries)
    {base other : Value} (first : hostBase source = .ok base) (second : hostBase copy = .ok other) :
    other = base := by
  unfold hostBase at first second
  dsimp only at first second
  rw [fieldOrNull_eq_of_hasFree expands.entries places.host,
    fieldOr_eq_of_hasFree expands.entries places.path] at second
  split at first
  · next held =>
      rw [if_pos held] at second
      obtain ⟨plain, free⟩ := places.schemes held
      have known := isExpanded_fieldOr (expands.entries.field? "schemes") (.list [.str "https"]) rfl
        plain.notReference
      have heads := areExpanded_first? known plain
      obtain ⟨scheme, foremost, first⟩ := Success.of_bind first
      obtain ⟨schemeCopy, otherForemost, second⟩ := Success.of_bind second
      rw [Success.of_foreseen foremost, Success.of_foreseen otherForemost] at heads
      cases heads with
      | some here =>
          cases here.eq_of_isFree (free scheme (Success.of_foreseen foremost))
          exact Except.ok.inj (second.symm.trans first)
  · next none =>
      rw [if_neg none] at second
      exact Except.ok.inj (second.symm.trans first)

theorem baseUrlOf_eq (source : Source) (foundAt : Option Text) :
    baseUrlOf source foundAt = (match source.dialect with
      | .swagger => hostBase source
      | .openApi => serverBase source) >>= placedBase foundAt := by
  unfold baseUrlOf
  cases source.dialect <;> rfl

theorem baseUrlOf_alike (expands : ExpandsTo source copy) (places : ReferencePlaces source)
    {foundAt : Option Text} {base other : Value} (first : baseUrlOf source foundAt = .ok base)
    (second : baseUrlOf copy foundAt = .ok other) : other = base := by
  rw [baseUrlOf_eq] at first second
  obtain ⟨found, here, first⟩ := Success.of_bind first
  obtain ⟨led, there, second⟩ := Success.of_bind second
  have condition := places.base
  have same : led = found := by
    rw [expands.dialect] at there
    generalize source.dialect = dialect at condition here there
    cases dialect with
    | swagger => exact hostBase_alike expands condition here there
    | openApi => exact serverBase_alike expands condition here there
  rw [same] at second
  exact Except.ok.inj (second.symm.trans first)

/-! ## Tags -/

theorem tagOf_alike {root : Value} {node expanded : Value} (known : IsExpanded root node expanded)
    (plain : ofValue? node = none) (free : ∀ fields, node = .map fields → HasFree "name" fields)
    {tag other : Option Tag} (first : tagOf node = .ok tag) (second : tagOf expanded = .ok other) :
    other = tag := by
  cases known.copy plain with
  | @map fields copies alike =>
      unfold tagOf at first second
      dsimp only at first second
      rw [field?_eq_of_hasFree alike (free fields rfl)] at second
      split at first
      · next name given =>
          rw [given] at second
          obtain ⟨description, described, rfl⟩ :=
            Success.of_checkedMap (Success.of_orAbort first)
          obtain ⟨otherDescription, otherDescribed, rfl⟩ :=
            Success.of_checkedMap (Success.of_orAbort second)
          rw [optionalText_eq (isExpanded_fieldOrNull alike "description") described otherDescribed]
      · next absent =>
          rw [absent] at second
          exact Except.ok.inj (second.symm.trans first)
  | _ => exact Except.ok.inj (second.symm.trans first)

theorem tagsOf_alike (expands : ExpandsTo source copy) (places : TagPlaces source.entries)
    {tags others : List Tag} (first : tagsOf source = .ok tags)
    (second : tagsOf copy = .ok others) : others = tags := by
  obtain ⟨nodes, listed, first⟩ := Success.of_bind first
  obtain ⟨copies, otherListed, second⟩ := Success.of_bind second
  obtain ⟨found, traversed, first⟩ := Success.of_bind first
  obtain ⟨led, otherTraversed, second⟩ := Success.of_bind second
  cases first
  cases second
  have pairs := areExpanded_fieldElements expands.entries places.tags listed otherListed
  have same : List.Forall₂ (fun tag other => other = tag) found led :=
    Success.forall₂_of_two_mapM pairs traversed otherTraversed
      fun node member expanded known tag other first second =>
        tagOf_alike known (places.each nodes listed node member).1
          (places.each nodes listed node member).2 first second
  have equal := Success.map_eq_of_forall₂ same id id fun _ _ same => same
  rw [List.map_id, List.map_id] at equal
  rw [equal]

/-! ## APIs -/

/-- What is said about the whole is said alike. -/
theorem info_alike (expands : ExpandsTo source copy) (places : InfoPlaces source.entries)
    {info infoCopy : Entries}
    (first : (Value.fieldOr "info" source.entries (.map [])).entries? = some info)
    (second : (Value.fieldOr "info" copy.entries (.map [])).entries? = some infoCopy) :
    info.AreCopies (IsExpanded source.root) infoCopy := by
  have plain := ofValue?_fieldOr places.info (.map []) rfl
  have known := isExpanded_fieldOr (expands.entries.field? "info") (.map []) rfl plain
  have inside := (known.copy plain).entries?
  rw [first, second] at inside
  cases inside with
  | some alike => exact alike

/-- Expanding a document before its import changes nothing in the API but schemas, if references
stand only where the import follows them and those that are kept have plain paths. -/
theorem outline_of_expand {document expanded : Value} {foundAt : Option Text}
    (success : Reference.expand document = .ok expanded) (paths : KeepsPlainPaths document)
    (places : ∀ source, Source.ofDocument document = .ok source → ReferencePlaces source)
    {api other : Api} (first : apiOf document foundAt = .ok api)
    (second : apiOf expanded foundAt = .ok other) : other.outline = api.outline := by
  obtain ⟨source, info, base, opened, parts⟩ := exists_isApiOf first
  obtain ⟨copy, infoCopy, baseCopy, otherOpened, otherParts⟩ := exists_isApiOf second
  have places := places source opened
  have expands := expandsTo_of_ofDocument success paths opened otherOpened places
  have said := info_alike expands places.info parts.said otherParts.said
  obtain ⟨titled, versioned⟩ := places.info.shown info parts.said
  have title : other.title = api.title := by
    rw [parts.title, otherParts.title, fieldOr_eq_of_hasFree said titled]
  have version : other.version = api.version := by
    rw [parts.version, otherParts.version, fieldOr_eq_of_hasFree said versioned]
  have description : other.description = api.description :=
    optionalText_eq (isExpanded_fieldOrNull said "description") parts.description
      otherParts.description
  have baseUrl : other.baseUrl = api.baseUrl := by
    have placed := otherParts.baseUrl
    rw [baseUrlOf_alike expands places parts.based otherParts.based] at placed
    exact Except.ok.inj (placed.symm.trans parts.baseUrl)
  have tags : other.tags = api.tags :=
    tagsOf_alike expands places.tags parts.tags otherParts.tags
  have operations : other.operations.map (·.outline) = api.operations.map (·.outline) :=
    operationsOf_alike expands places.paths parts.operations otherParts.operations
  have schemas := namedSchemas_alike (definitions_of_expandsTo expands opened otherOpened places)
    parts.schemas otherParts.schemas
  simp only [Api.outline, title, version, description, baseUrl, operations, schemas, tags]

/-- A description of trees: a path whose parameter and response are references, and a schema that
refers to itself. -/
def treesDocument : Value :=
  let tree : Value := Reference.referenceTo "#/components/schemas/Tree"
  .map [
    (.str "openapi", .str "3.1.0".toList),
    (.str "info", .map [(.str "title", .str "Trees".toList)]),
    (.str "paths", .map [(.str "/trees", .map [(.str "get", .map [
      (.str "operationId", .str "listTrees".toList),
      (.str "parameters", .list [Reference.referenceTo "#/components/parameters/Path"]),
      (.str "responses", .map [
        (.str "200", Reference.referenceTo "#/components/responses/Trees")])])])]),
    (.str "components", .map [
      (.str "parameters", .map [(.str "Path", .map [
        (.str "name", .str "path".toList), (.str "in", .str "query".toList),
        (.str "schema", tree)])]),
      (.str "responses", .map [(.str "Trees", .map [
        (.str "description", .str "Trees".toList),
        (.str "content", .map [(.str "application/json", .map [(.str "schema", tree)])])])]),
      (.str "schemas", .map [(.str "Tree", .map [
        (.str "type", .str "array".toList), (.str "items", tree)])])])]

/-- The types of items that the parameters of each operation have. -/
def itemsTypes (api : Api) : List (List (Option Text)) :=
  api.operations.map fun operation => operation.parameters.map (·.itemsType)

theorem itemsTypes_outline (api : Api) : itemsTypes api.outline = itemsTypes api := by
  unfold itemsTypes Api.outline
  rw [List.map_map]
  rfl

theorem outline_of_treesDocument :
    ∃ expanded api other, Reference.expand treesDocument = .ok expanded ∧
      KeepsPlainPaths treesDocument ∧
      (∀ source, Source.ofDocument treesDocument = .ok source → ReferencePlaces source) ∧
      apiOf treesDocument none = .ok api ∧ apiOf expanded none = .ok other ∧
      itemsTypes api = [[some "array".toList]] ∧ other.outline = api.outline := by
  have paths : KeepsPlainPaths treesDocument := Reference.keepsPlainPaths_of_all (by decide +kernel)
  have places : ∀ source, Source.ofDocument treesDocument = .ok source →
      ReferencePlaces source := by decide +kernel
  have evaluated : (apiOf treesDocument none).toOption.map itemsTypes =
      some [[some "array".toList]] := by decide +kernel
  have succeeds : ((Reference.expand treesDocument).toOption.bind fun expanded =>
      (apiOf expanded none).toOption.map fun _ => ()) = some () := by decide +kernel
  obtain ⟨api, imported, types⟩ := Option.map_eq_some_iff.mp evaluated
  obtain ⟨expanded, made, succeeds⟩ := Option.bind_eq_some_iff.mp succeeds
  obtain ⟨other, otherImported, _⟩ := Option.map_eq_some_iff.mp succeeds
  replace imported := Success.of_toOption imported
  replace made := Success.of_toOption made
  replace otherImported := Success.of_toOption otherImported
  exact ⟨expanded, api, other, made, paths, places, imported, otherImported, types,
    outline_of_expand made paths places imported otherImported⟩

/-- What stands beside the reference also stands where that leads, but is another schema there. -/
def textsDocument : Value :=
  Reference.namesDocument
    (.map [(.str "$defs", .map [(.str "Tree", .map [(.str "type", .str "string".toList)])])])

/-- Where a kept reference goes through what stands beside a reference, the expanded document can
have another parameter. -/
theorem not_outline_of_textsDocument :
    ∃ expanded api other, Reference.expand textsDocument = .ok expanded ∧
      (∀ source, Source.ofDocument textsDocument = .ok source → ReferencePlaces source) ∧
      apiOf textsDocument none = .ok api ∧ apiOf expanded none = .ok other ∧
      itemsTypes api = [[some "array".toList]] ∧ itemsTypes other = [[some "string".toList]] ∧
      other.outline ≠ api.outline := by
  have places : ∀ source, Source.ofDocument textsDocument = .ok source →
      ReferencePlaces source := by decide +kernel
  have evaluated : (apiOf textsDocument none).toOption.map itemsTypes =
      some [[some "array".toList]] := by decide +kernel
  have succeeds : ((Reference.expand textsDocument).toOption.bind fun expanded =>
      (apiOf expanded none).toOption.map itemsTypes) = some [[some "string".toList]] := by
    decide +kernel
  obtain ⟨api, imported, types⟩ := Option.map_eq_some_iff.mp evaluated
  obtain ⟨expanded, made, succeeds⟩ := Option.bind_eq_some_iff.mp succeeds
  obtain ⟨other, otherImported, otherTypes⟩ := Option.map_eq_some_iff.mp succeeds
  have differ : other.outline ≠ api.outline := by
    intro same
    have seen := congrArg itemsTypes same
    rw [itemsTypes_outline, itemsTypes_outline, types, otherTypes] at seen
    exact absurd seen (by decide)
  exact ⟨expanded, api, other, Success.of_toOption made, places, Success.of_toOption imported,
    Success.of_toOption otherImported, types, otherTypes, differ⟩

end Import

end ApiForge
