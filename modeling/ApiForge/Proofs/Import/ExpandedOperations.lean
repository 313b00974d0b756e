import ApiForge.Proofs.Import.ExpandedBodies
import ApiForge.Proofs.Import.OperationSites

/-!
# Operations of expanded documents

A document and its expansion have operations at the same sites, in the same order.
What is imported at a site of the document and at that of the expansion differs in
schemas only.
-/

namespace ApiForge

/-- The operation with nothing known about its schemas but where there are any. -/
def Operation.outline (operation : Operation) : Operation :=
  { operation with
    body := operation.body.map (·.outline)
    responses := operation.responses.map (·.outline) }

namespace Import

open Reference (IsExpanded IsFree IsPlain ofValue?)

variable {source copy : Source}

/-! ## One operation -/

theorem hasFree_in_of_parametersOf {merged : List Entries} {parameters : List Parameter}
    (success : parametersOf source merged = .ok parameters) {entries : Entries}
    (member : entries ∈ merged) : HasFree "in" entries := by
  obtain ⟨found, traversed, _⟩ := Success.of_bind success
  obtain ⟨result, imported⟩ := Success.of_mem_mapM traversed member
  obtain ⟨location, located, _⟩ := Success.of_bind imported
  intro value there
  have place : Value.fieldOrNull "in" entries = value := by
    unfold Value.fieldOrNull
    rw [there]
    rfl
  unfold locationOf at located
  rw [place] at located
  cases value with
  | scalar _ | set _ => rfl
  | list _ | map _ | pair _ _ => cases located

/-- Elements that are free are displayed alike. -/
theorem map_display_eq {root : Value} {tags others : List Value}
    (known : List.Forall₂ (IsExpanded root) tags others) (free : ∀ tag ∈ tags, IsFree tag) :
    others.map Value.display = tags.map Value.display := by
  have same : List.Forall₂ (fun tag other => other = tag) tags others :=
    Success.forall₂_of_mem known fun tag member other here => here.eq_of_isFree (free tag member)
  exact Success.map_eq_of_forall₂ same Value.display Value.display fun _ _ => congrArg Value.display

theorem isExpanded_identifierOf {root : Value} {entries copies : Entries}
    (alike : entries.AreCopies (IsExpanded root) copies) {method : Method} {path identifier : Text}
    (given : identifierOf method path entries = .str identifier) :
    IsExpanded root (identifierOf method path entries) (identifierOf method path copies) := by
  refine isExpanded_fieldOr (alike.field? "operationId")
    (.str (Naming.synthesized method.name path)) rfl ?_
  change ofValue? (identifierOf method path entries) = none
  rw [given]
  rfl

section

variable {path : Text} {method : Method} {ofPath pathCopy : Value} {entries copies : Entries}

/-- The body of an operation is imported alike, in the request or among the parameters. -/
theorem body_alike (expands : ExpandsTo source copy)
    (alike : entries.AreCopies (IsExpanded source.root) copies)
    (places : OperationPlaces source ofPath entries) {merged otherMerged : List Entries}
    (pairs : List.Forall₂ (IsParameterCopy source.root) merged otherMerged)
    {tags otherTags : List Value} {operation other : Operation}
    (read : IsReadFrom source path ofPath method entries merged tags operation)
    (otherRead : IsReadFrom copy path pathCopy method copies otherMerged otherTags other) :
    other.body.map (·.outline) = operation.body.map (·.outline) := by
  have condition := places.body
  have given := read.body
  have otherGiven := otherRead.body
  rw [expands.dialect] at otherGiven
  generalize source.dialect = dialect at condition given otherGiven
  cases dialect with
  | swagger =>
      have placed := Success.forall₂_of_mem pairs fun entries member copy here =>
        IsPlacedCopy.mk here.alike (hasFree_in_of_parametersOf read.parameters member)
      exact bodyOfParameters_alike expands alike placed (condition merged read.united) given
        otherGiven
  | openApi =>
      exact bodyOf_alike expands (isExpanded_fieldOrNull alike "requestBody") condition given
        otherGiven

/-- An operation is imported alike from a mapping and from its copy. -/
theorem operationOf_alike (expands : ExpandsTo source copy)
    (ofShared : IsExpanded source.root ofPath pathCopy)
    (alike : entries.AreCopies (IsExpanded source.root) copies)
    (places : OperationPlaces source ofPath entries) {operation other : Operation}
    (first : operationOf source path ofPath method entries = .ok operation)
    (second : operationOf copy path pathCopy method copies = .ok other) :
    other.outline = operation.outline := by
  obtain ⟨merged, tags, read⟩ := exists_isReadFrom first
  obtain ⟨otherMerged, otherTags, otherRead⟩ := exists_isReadFrom second
  have ofOwn := isExpanded_fieldOr (alike.field? "parameters") (.list []) rfl
    places.own.plain.notReference
  have pairs := merged_alike expands ofShared ofOwn places.shared places.own read.united
    otherRead.united
  have parameters : other.parameters = operation.parameters :=
    parametersOf_alike expands pairs (places.parameters merged read.united) read.parameters
      otherRead.parameters
  have body := body_alike expands alike places pairs read otherRead
  have responses : other.responses.map (·.outline) = operation.responses.map (·.outline) :=
    responsesOf_alike expands alike places.responses places.eachResponse read.responses
      otherRead.responses
  have listed := areExpanded_fieldElements alike places.tags read.listed otherRead.listed
  have tagged : other.tags = operation.tags := by
    rw [otherRead.tags, read.tags, map_display_eq listed (places.eachTag tags read.listed)]
  have identifier : other.identifier = operation.identifier :=
    text_eq (isExpanded_identifierOf alike read.identified) read.identifier otherRead.identifier
  have summary : other.summary = operation.summary :=
    optionalText_eq (isExpanded_fieldOrNull alike "summary") read.summary otherRead.summary
  have description : other.description = operation.description :=
    optionalText_eq (isExpanded_fieldOrNull alike "description") read.description
      otherRead.description
  have deprecated : other.deprecated = operation.deprecated := by
    rw [otherRead.deprecated, read.deprecated, holds_fieldOrNull_eq alike places.deprecated]
  have path : other.path = operation.path := by rw [otherRead.path, read.path]
  have method : other.method = operation.method := by rw [otherRead.method, read.method]
  simp only [Operation.outline, identifier, method, path, summary, description, tagged, parameters,
    body, responses, deprecated]

end

/-! ## All operations -/

/-- The sites of an operation in a document and in its expansion. -/
structure SiteAlike (source : Source) (site other : OperationSite) : Prop where
  path : other.path = site.path
  method : other.method = site.method
  shared : IsExpanded source.root site.shared other.shared
  entries : site.entries.AreCopies (IsExpanded source.root) other.entries
  places : OperationPlaces source site.shared site.entries

theorem fieldOrNull_eq_map {name : Text} {entries operation : Entries}
    (read : Value.fieldOrNull name entries = .map operation) :
    Entries.field? name entries = some (.map operation) := by
  unfold Value.fieldOrNull at read
  cases found : Entries.field? name entries with
  | none =>
      rw [found] at read
      cases read
  | some value =>
      rw [found] at read
      exact congrArg some read

theorem siteAlike_ofMethod? {path : Text} {item itemCopy : Entries}
    (alike : item.AreCopies (IsExpanded source.root) itemCopy) (places : ItemPlaces source item)
    {method : Method} (member : method ∈ Method.all) :
    Option.Rel (SiteAlike source) (OperationSite.ofMethod? path item method)
      (OperationSite.ofMethod? path itemCopy method) := by
  have known := isExpanded_fieldOrNull alike method.name
  have made := known.copy (ofValue?_fieldOrNull (places.methods method member))
  unfold OperationSite.ofMethod?
  generalize read : Value.fieldOrNull method.name item = value at made ⊢
  generalize Value.fieldOrNull method.name itemCopy = valueCopy at made ⊢
  cases made with
  | @map entries copies inside =>
      have fulfilled := places.each method member entries (fieldOrNull_eq_map read)
      have shared := isExpanded_fieldOr (alike.field? "parameters") (.list []) rfl
        fulfilled.shared.plain.notReference
      exact .some ⟨rfl, rfl, shared, inside, fulfilled⟩
  | _ => exact .none

theorem siteAlike_ofItem {path : Text} {item itemCopy : Entries}
    (alike : item.AreCopies (IsExpanded source.root) itemCopy) (places : ItemPlaces source item) :
    List.Forall₂ (SiteAlike source) (OperationSite.ofItem path item)
      (OperationSite.ofItem path itemCopy) := by
  have methods : List.Forall₂ (fun method other => other = method ∧ method ∈ Method.all)
      Method.all Method.all := List.forall₂_same.mpr fun _ member => ⟨rfl, member⟩
  refine List.rel_filterMap ?_ methods
  rintro method _ ⟨rfl, member⟩
  exact siteAlike_ofMethod? alike places member

theorem siteAlike_ofPath (expands : ExpandsTo source copy) {key : Scalar} {node expanded : Value}
    (known : IsExpanded source.root node expanded)
    (places : key.display.startsWith "x-" = false → AtTarget source (ItemPlaces source) node)
    (leads : key.display.startsWith "x-" = false → ∃ item, source.followEntries? node = .ok item)
    (inCopy : key.display.startsWith "x-" = false →
      ∃ item, copy.followEntries? expanded = .ok item) :
    List.Forall₂ (SiteAlike source) (OperationSite.ofPath source (key, node))
      (OperationSite.ofPath copy (key, expanded)) := by
  unfold OperationSite.ofPath
  dsimp only
  cases extension : key.display.startsWith "x-" with
  | true => exact .nil
  | false =>
      obtain ⟨found, first⟩ := leads extension
      obtain ⟨led, second⟩ := inCopy extension
      have target := places extension
      rw [if_neg Bool.false_ne_true, if_neg Bool.false_ne_true, first, second]
      cases areCopies_of_followEntries? expands known target first second with
      | none => exact .nil
      | some alike => exact siteAlike_ofItem alike (target _ first).2

/-- A document and its expansion have operations at the same sites. -/
theorem siteAlike_ofPaths (expands : ExpandsTo source copy) {paths copies : Entries}
    (alike : paths.AreCopies (IsExpanded source.root) copies)
    (places : ∀ entry ∈ paths, entry.1.display.startsWith "x-" = false →
      AtTarget source (ItemPlaces source) entry.2)
    (lead : PathsLead source paths) (inCopy : PathsLead copy copies) :
    List.Forall₂ (SiteAlike source) (OperationSite.ofPaths source paths)
      (OperationSite.ofPaths copy copies) := by
  induction alike with
  | nil => exact .nil
  | @cons entry other rest others here _ ih =>
      obtain ⟨key, node⟩ := entry
      obtain ⟨_, expanded⟩ := other
      obtain ⟨rfl, known⟩ := here
      have atFirst := siteAlike_ofPath expands known (places _ List.mem_cons_self)
        (lead _ List.mem_cons_self) (inCopy _ List.mem_cons_self)
      refine List.rel_append atFirst (ih ?_ ?_ ?_)
      · exact fun entry member => places entry (List.mem_cons_of_mem _ member)
      · exact fun entry member => lead entry (List.mem_cons_of_mem _ member)
      · exact fun entry member => inCopy entry (List.mem_cons_of_mem _ member)

/-- The operations of a document and of its expansion have the same outlines. -/
theorem operationsOf_alike (expands : ExpandsTo source copy) (places : PathPlaces source)
    {operations others : List Operation} (first : operationsOf source = .ok operations)
    (second : operationsOf copy = .ok others) :
    others.map (·.outline) = operations.map (·.outline) := by
  obtain ⟨paths, listed, _⟩ := Success.of_bind first
  obtain ⟨copies, otherListed, _⟩ := Success.of_bind second
  obtain ⟨lead, converted, _⟩ := (operationsOf_eq_ok_iff listed).mp first
  obtain ⟨inCopy, otherConverted, _⟩ := (operationsOf_eq_ok_iff otherListed).mp second
  have alike := areCopies_fieldEntries expands.entries places.paths listed otherListed
  have sites := siteAlike_ofPaths expands alike (places.each paths listed) lead inCopy
  have outlines : List.Forall₂ (fun operation other : Operation =>
      other.outline = operation.outline) operations others := by
    refine Success.forall₂_of_two sites converted otherConverted ?_
    intro site _ other here operation otherOperation imported otherImported
    unfold OperationSite.convert at imported otherImported
    rw [here.path, here.method] at otherImported
    exact operationOf_alike expands here.shared here.entries here.places imported otherImported
  exact Success.map_eq_of_forall₂ outlines Operation.outline Operation.outline fun _ _ same => same

end Import

end ApiForge
