import ApiForge.Proofs.Import.ApiReferences
import Mathlib.Data.List.Nodup

/-!
# Sites of operations

A description has an operation at every pair of a path and a method for which
the item of the path has a mapping. The import lists exactly the operations of
these sites, in order, unless two of them have one identifier in Pascal form:
then it ends at the first operation whose identifier is taken, and names the
operation that has it.
-/

namespace ApiForge.Import

/-- A place of a description where an operation stands; `shared` are the parameters of its path. -/
structure OperationSite where
  path : Text
  method : Method
  shared : Value
  entries : Entries

namespace OperationSite

/-- The site of a method in a path item, if the item has a mapping for the method. -/
def ofMethod? (path : Text) (item : Entries) (method : Method) : Option OperationSite :=
  match Value.fieldOrNull method.name item with
  | .map entries => some ⟨path, method, Value.fieldOr "parameters" item (.list []), entries⟩
  | _ => none

/-- The sites of a path item in the order of the methods. -/
def ofItem (path : Text) (item : Entries) : List OperationSite :=
  Method.all.filterMap (ofMethod? path item)

/-- The sites of a path; an extension has none, nor has a path that leads to no mapping. -/
def ofPath (source : Source) (entry : Scalar × Value) : List OperationSite :=
  if entry.1.display.startsWith "x-" then []
  else
    match source.followEntries? entry.2 with
    | .ok (some item) => ofItem entry.1.display item
    | _ => []

/-- The sites of all paths in document order. -/
def ofPaths (source : Source) (paths : Entries) : List OperationSite :=
  paths.flatMap (ofPath source)

/-- The operation of a site by itself. -/
def convert (source : Source) (site : OperationSite) : Except Abort Operation :=
  operationOf source site.path site.shared site.method site.entries

/-- The identifier is the one that the entries give, if it holds, and otherwise the one made of
method and path. -/
def Identifies (site : OperationSite) (identifier : Text) : Prop :=
  match Entries.field? "operationId" site.entries with
  | some given =>
      if given.holds then given = .str identifier
      else identifier = Naming.synthesized site.method.name site.path
  | none => identifier = Naming.synthesized site.method.name site.path

/-- The operation is that of the site. -/
structure IsImportedAs (source : Source) (site : OperationSite) (operation : Operation) : Prop where
  converted : site.convert source = .ok operation
  path : operation.path = site.path
  method : operation.method = site.method
  identified : site.Identifies operation.identifier

end OperationSite

/-- No path other than an extension holds a reference that leads nowhere. -/
def PathsLead (source : Source) (paths : Entries) : Prop :=
  ∀ entry ∈ paths, entry.1.display.startsWith "x-" = false →
    ∃ item, source.followEntries? entry.2 = .ok item

/-! ## Operations by themselves -/

variable {source : Source}

theorem OperationSite.identifies_of_identifierOf {site : OperationSite} {identifier : Text}
    (identified : identifierOf site.method site.path site.entries = .str identifier) :
    site.Identifies identifier := by
  unfold identifierOf Value.fieldOr at identified
  unfold OperationSite.Identifies
  cases found : Entries.field? "operationId" site.entries with
  | some given =>
      rw [found] at identified
      dsimp only at identified ⊢
      by_cases holds : given.holds = true
      · rwa [if_pos holds] at identified ⊢
      · rw [if_neg holds] at identified ⊢
        cases identified
        rfl
  | none =>
      rw [found] at identified
      cases identified
      rfl

theorem OperationSite.isImportedAs_of_convert {site : OperationSite} {operation : Operation}
    (converted : site.convert source = .ok operation) : site.IsImportedAs source operation := by
  obtain ⟨_, made⟩ := exists_isMadeOf converted
  exact ⟨converted, made.path, made.method,
    OperationSite.identifies_of_identifierOf made.identified⟩

/-! ## Distinct identifiers -/

/-- The identifiers of operations in Pascal form. -/
def pascalNames (operations : List Operation) : List Text :=
  operations.map fun operation => Naming.pascal operation.identifier

theorem pascalNames_append (first second : List Operation) :
    pascalNames (first ++ second) = pascalNames first ++ pascalNames second :=
  List.map_append

/-- `later` is the first operation with the identifier of one before it, which is `earlier`. -/
structure IsFirstClash (operations : List Operation) (earlier later : Operation) : Prop where
  same : Naming.pascal earlier.identifier = Naming.pascal later.identifier
  split : ∃ before between after,
    operations = before ++ earlier :: between ++ later :: after ∧
      (pascalNames (before ++ earlier :: between)).Nodup

/-- One more operation, whose identifier must be free. -/
def addOperation (known : List Operation) (operation : Operation) :
    Except Abort (List Operation) := do
  checkIdentifier known operation
  pure (known ++ [operation])

theorem checkIdentifier_of_not_mem {known : List Operation} {operation : Operation}
    (free : Naming.pascal operation.identifier ∉ pascalNames known) :
    checkIdentifier known operation = .ok () := by
  have unmet : known.find? (fun other =>
      Naming.pascal other.identifier == Naming.pascal operation.identifier) = none := by
    rw [List.find?_eq_none]
    intro other member same
    exact free (List.mem_map.mpr ⟨other, member, beq_iff_eq.mp same⟩)
  unfold checkIdentifier
  dsimp only
  rw [unmet]

/-- The check names the operation that has the identifier. -/
theorem checkIdentifier_of_same {before between : List Operation} {earlier later : Operation}
    (distinct : (pascalNames (before ++ earlier :: between)).Nodup)
    (same : Naming.pascal earlier.identifier = Naming.pascal later.identifier) :
    checkIdentifier (before ++ earlier :: between) later =
      .error (.failed (.duplicateOperation later.identifier earlier.label later.label)) := by
  have found : (before ++ earlier :: between).find? (fun other =>
      Naming.pascal other.identifier == Naming.pascal later.identifier) = some earlier := by
    rw [List.find?_append, Option.or_eq_some_iff]
    refine .inr ⟨List.find?_eq_none.mpr ?_, List.find?_cons_of_pos (beq_iff_eq.mpr same)⟩
    intro other member taken
    rw [pascalNames_append, List.nodup_append] at distinct
    refine distinct.2.2 _ (List.mem_map.mpr ⟨other, member, rfl⟩) _ List.mem_cons_self ?_
    exact (beq_iff_eq.mp taken).trans same.symm
  unfold checkIdentifier
  dsimp only
  rw [found]

/-- Operations with distinct identifiers are all listed. -/
theorem foldlM_addOperation_of_nodup {known operations : List Operation}
    (distinct : (pascalNames (known ++ operations)).Nodup) :
    operations.foldlM addOperation known = .ok (known ++ operations) := by
  induction operations generalizing known with
  | nil => rw [List.append_nil]; rfl
  | cons operation rest ih =>
      have extended : known ++ operation :: rest = (known ++ [operation]) ++ rest := by simp
      have free : Naming.pascal operation.identifier ∉ pascalNames known := by
        rw [pascalNames_append, List.nodup_append] at distinct
        exact fun member => distinct.2.2 _ member _ List.mem_cons_self rfl
      rw [List.foldlM_cons, addOperation, checkIdentifier_of_not_mem free, extended]
      exact ih (extended ▸ distinct)

/-- Of operations whose identifiers clash none is listed, and the first clash is told. -/
theorem foldlM_addOperation_of_clash {known operations : List Operation}
    (distinct : (pascalNames known).Nodup)
    (clash : ¬ (pascalNames (known ++ operations)).Nodup) :
    ∃ earlier later, IsFirstClash (known ++ operations) earlier later ∧
      operations.foldlM addOperation known =
        .error (.failed (.duplicateOperation later.identifier earlier.label later.label)) := by
  induction operations generalizing known with
  | nil =>
      rw [List.append_nil] at clash
      exact absurd distinct clash
  | cons operation rest ih =>
      by_cases taken : Naming.pascal operation.identifier ∈ pascalNames known
      · obtain ⟨earlier, member, same⟩ := List.mem_map.mp taken
        obtain ⟨before, between, rfl⟩ := List.append_of_mem member
        refine ⟨earlier, operation, ⟨same, before, between, rest, rfl, distinct⟩, ?_⟩
        rw [List.foldlM_cons, addOperation, checkIdentifier_of_same distinct same]
        rfl
      · have extended : known ++ operation :: rest = (known ++ [operation]) ++ rest := by simp
        have nodup : (pascalNames (known ++ [operation])).Nodup := by
          rw [pascalNames_append, List.nodup_append]
          refine ⟨distinct, List.nodup_singleton _, ?_⟩
          rintro name member other new rfl
          rw [List.mem_singleton.mp new] at member
          exact taken member
        rw [List.foldlM_cons, addOperation, checkIdentifier_of_not_mem taken, extended]
        exact ih nodup (extended ▸ clash)

/-! ## Operations of all sites -/

/-- The operation of one more site. -/
def addSite (source : Source) (known : List Operation) (site : OperationSite) :
    Except Abort (List Operation) := do
  let operation ← site.convert source
  addOperation known operation

theorem addItem_eq (path : Text) (item : Entries) (known : List Operation) :
    addItem source path item known =
      (OperationSite.ofItem path item).foldlM (addSite source) known := by
  unfold addItem OperationSite.ofItem
  rw [List.foldlM_filterMap]
  congr 1
  funext known method
  unfold OperationSite.ofMethod?
  cases Value.fieldOrNull method.name item <;> rfl

/-- What the import adds for a path are the operations of its sites. -/
theorem addPath_eq {entry : Scalar × Value}
    (leads : entry.1.display.startsWith "x-" = false →
      ∃ item, source.followEntries? entry.2 = .ok item) (known : List Operation) :
    (if entry.1.display.startsWith "x-" then pure known
      else do
        match ← source.followEntries? entry.2 with
        | none => pure known
        | some item => addItem source entry.1.display item known) =
      (OperationSite.ofPath source entry).foldlM (addSite source) known := by
  unfold OperationSite.ofPath
  split
  · rfl
  · next named =>
      obtain ⟨item, led⟩ := leads (Bool.eq_false_iff.mpr named)
      rw [led]
      cases item with
      | none => rfl
      | some item => exact addItem_eq _ _ _

/-- Where every path leads somewhere, the operations of a description are those of its sites. -/
theorem operationsOf_eq {paths : Entries}
    (listed : Value.fieldEntries "paths" source.entries = .ok paths)
    (lead : PathsLead source paths) :
    operationsOf source = (OperationSite.ofPaths source paths).foldlM (addSite source) [] := by
  unfold operationsOf
  rw [listed]
  change paths.foldlM _ [] = _
  generalize ([] : List Operation) = known
  clear listed
  induction paths generalizing known with
  | nil => rfl
  | cons entry rest ih =>
      have inRest : PathsLead source rest :=
        fun entry member => lead entry (List.mem_cons_of_mem _ member)
      rw [List.foldlM_cons, OperationSite.ofPaths, List.flatMap_cons, List.foldlM_append,
        ← addPath_eq (lead entry List.mem_cons_self)]
      exact bind_congr fun known => ih inRest known

theorem pathsLead_of_operationsOf {operations : List Operation} {paths : Entries}
    (listed : Value.fieldEntries "paths" source.entries = .ok paths)
    (success : operationsOf source = .ok operations) : PathsLead source paths := by
  unfold operationsOf at success
  rw [listed] at success
  intro entry member named
  obtain ⟨known, next, step⟩ := Success.exists_of_mem_foldlM success member
  dsimp only at step
  rw [named] at step
  obtain ⟨item, led, _⟩ := Success.of_bind step
  exact ⟨item, led⟩

/-- Sites that can be converted one by one add their operations. -/
theorem foldlM_addSite_eq {sites : List OperationSite} {operations known : List Operation}
    (converted : List.Forall₂ (fun site operation => site.convert source = .ok operation)
      sites operations) :
    sites.foldlM (addSite source) known = operations.foldlM addOperation known := by
  induction converted generalizing known with
  | nil => rfl
  | cons here _ ih =>
      rw [List.foldlM_cons, List.foldlM_cons, addSite, here]
      exact bind_congr fun known => ih

theorem exists_converted {sites : List OperationSite} {known result : List Operation}
    (success : sites.foldlM (addSite source) known = .ok result) :
    ∃ operations, List.Forall₂ (fun site operation => site.convert source = .ok operation)
      sites operations := by
  induction sites generalizing known with
  | nil => exact ⟨[], .nil⟩
  | cons site rest ih =>
      rw [List.foldlM_cons] at success
      obtain ⟨next, here, success⟩ := Success.of_bind success
      obtain ⟨operation, converted, _⟩ := Success.of_bind here
      obtain ⟨operations, others⟩ := ih success
      exact ⟨operation :: operations, .cons converted others⟩

/-- The import of the operations succeeds exactly if every path leads somewhere, every site can be
converted and no two identifiers are the same; its result are then the operations of the sites. -/
theorem operationsOf_eq_ok_iff {paths : Entries} {operations : List Operation}
    (listed : Value.fieldEntries "paths" source.entries = .ok paths) :
    operationsOf source = .ok operations ↔
      PathsLead source paths ∧
        List.Forall₂ (fun site operation => site.convert source = .ok operation)
          (OperationSite.ofPaths source paths) operations ∧
        (pascalNames operations).Nodup := by
  constructor
  · intro success
    have lead := pathsLead_of_operationsOf listed success
    rw [operationsOf_eq listed lead] at success
    obtain ⟨found, converted⟩ := exists_converted success
    rw [foldlM_addSite_eq converted] at success
    by_cases distinct : (pascalNames found).Nodup
    · have added : found.foldlM addOperation [] = .ok found :=
        foldlM_addOperation_of_nodup distinct
      rw [added] at success
      cases success
      exact ⟨lead, converted, distinct⟩
    · obtain ⟨_, _, _, refused⟩ := @foldlM_addOperation_of_clash [] found List.nodup_nil distinct
      rw [refused] at success
      cases success
  · rintro ⟨lead, converted, distinct⟩
    rw [operationsOf_eq listed lead, foldlM_addSite_eq converted]
    exact foldlM_addOperation_of_nodup distinct

/-- Where all sites can be converted and two identifiers are the same, the first clash is told. -/
theorem operationsOf_of_clash {paths : Entries} {operations : List Operation}
    (listed : Value.fieldEntries "paths" source.entries = .ok paths)
    (lead : PathsLead source paths)
    (converted : List.Forall₂ (fun site operation => site.convert source = .ok operation)
      (OperationSite.ofPaths source paths) operations)
    (clash : ¬ (pascalNames operations).Nodup) :
    ∃ earlier later, IsFirstClash operations earlier later ∧
      operationsOf source =
        .error (.failed (.duplicateOperation later.identifier earlier.label later.label)) := by
  rw [operationsOf_eq listed lead, foldlM_addSite_eq converted]
  exact @foldlM_addOperation_of_clash [] operations List.nodup_nil clash

/-! ## Operations of an API -/

/-- A document of which everything can be imported that comes before its operations, and whose paths
lead somewhere. -/
structure IsReadable (document : Value) (foundAt : Option Text) (source : Source)
    (paths : Entries) : Prop where
  opened : Source.ofDocument document = .ok source
  described : ∃ info, (Value.fieldOr "info" source.entries (.map [])).entries? = some info
  named : ∃ schemas, namedSchemas source = .ok schemas
  based : ∃ base, baseUrlOf source foundAt = .ok base
  listed : Value.fieldEntries "paths" source.entries = .ok paths
  lead : PathsLead source paths

/-- The import of an API ends with the failure of its operations. -/
theorem apiOf_of_operationsOf {document : Value} {foundAt : Option Text} {paths : Entries}
    (readable : IsReadable document foundAt source paths) {failure : Abort}
    (failed : operationsOf source = .error failure) : apiOf document foundAt = .error failure := by
  obtain ⟨info, described⟩ := readable.described
  obtain ⟨schemas, named⟩ := readable.named
  obtain ⟨base, based⟩ := readable.based
  unfold apiOf apiOfSource
  rw [readable.opened]
  change (namedSchemas source >>= _) = _
  rw [named]
  change (foreseen (Value.entries? _) >>= _) = _
  rw [described]
  change (baseUrlOf source foundAt >>= _) = _
  rw [based]
  change (operationsOf source >>= _) = _
  rw [failed]
  rfl

/-- An imported API has the operations of the sites of its document, in order, one for each site,
and no two of them have one identifier in Pascal form. Conversely, if all sites of a readable
document can be converted by themselves but two of the identifiers are the same, the import ends at
the first clash and names both operations. -/
theorem operations_of_sites (document : Value) (foundAt : Option Text) :
    (∀ api, apiOf document foundAt = .ok api →
      ∃ source paths, Source.ofDocument document = .ok source ∧
        Value.fieldEntries "paths" source.entries = .ok paths ∧ PathsLead source paths ∧
        List.Forall₂ (OperationSite.IsImportedAs source)
          (OperationSite.ofPaths source paths) api.operations ∧
        (pascalNames api.operations).Nodup) ∧
      ∀ source paths operations, IsReadable document foundAt source paths →
        List.Forall₂ (fun site operation => site.convert source = .ok operation)
          (OperationSite.ofPaths source paths) operations →
        ¬ (pascalNames operations).Nodup →
        ∃ earlier later, IsFirstClash operations earlier later ∧
          apiOf document foundAt =
            .error (.failed (.duplicateOperation later.identifier earlier.label later.label)) := by
  constructor
  · intro api imported
    obtain ⟨source, opened, _, success, _⟩ := parts_of_apiOf imported
    obtain ⟨paths, listed, _⟩ := Success.of_bind success
    obtain ⟨lead, converted, distinct⟩ := (operationsOf_eq_ok_iff listed).mp success
    exact ⟨source, paths, opened, listed, lead,
      converted.imp fun _ _ => OperationSite.isImportedAs_of_convert, distinct⟩
  · intro source paths operations readable converted clash
    obtain ⟨earlier, later, first, failed⟩ :=
      operationsOf_of_clash readable.listed readable.lead converted clash
    exact ⟨earlier, later, first, apiOf_of_operationsOf readable failed⟩

/-- Two paths with three operations and an extension between them; one identifier is given. -/
def petsAndCats (first : Text) : Value :=
  let answers : Scalar × Value := (.str "responses", .map [])
  let named (identifier : Text) : Value :=
    .map [(.str "operationId", .scalar (.str identifier)), answers]
  .map [
    (.str "openapi", .scalar (.str "3.0.0")),
    (.str "paths", .map [
      (.str "/pets", .map [(.str "get", named first)]),
      (.str "x-paths", .map [(.str "get", named "hidden")]),
      (.str "/cats/\x7bid\x7d", .map [
        (.str "delete", .map [answers]),
        (.str "get", named "findPets"),
        (.str "summary", .scalar (.str "One cat"))])])]

/-- What the import reads of a document, each operation by itself. -/
def readSites (document : Value) (foundAt : Option Text) :
    Except Abort (Source × Entries × List Operation) := do
  let source ← Source.ofDocument document
  let _ ← namedSchemas source
  let _ ← foreseen (Value.fieldOr "info" source.entries (.map [])).entries?
  let _ ← baseUrlOf source foundAt
  let paths ← Value.fieldEntries "paths" source.entries
  let _ ← (paths.filter fun entry => !entry.1.display.startsWith "x-").mapM fun entry =>
    source.followEntries? entry.2
  let operations ← (OperationSite.ofPaths source paths).mapM (·.convert source)
  pure (source, paths, operations)

theorem isReadable_of_readSites {document : Value} {foundAt : Option Text} {paths : Entries}
    {operations : List Operation}
    (success : readSites document foundAt = .ok (source, paths, operations)) :
    IsReadable document foundAt source paths ∧
      List.Forall₂ (fun site operation => site.convert source = .ok operation)
        (OperationSite.ofPaths source paths) operations := by
  obtain ⟨opened, open_, success⟩ := Success.of_bind success
  obtain ⟨schemas, named, success⟩ := Success.of_bind success
  obtain ⟨info, described, success⟩ := Success.of_bind success
  obtain ⟨base, based, success⟩ := Success.of_bind success
  obtain ⟨entries, listed, success⟩ := Success.of_bind success
  obtain ⟨items, led, success⟩ := Success.of_bind success
  obtain ⟨converted, traversed, success⟩ := Success.of_bind success
  cases success
  refine ⟨⟨open_, ⟨info, Success.of_foreseen described⟩, ⟨schemas, named⟩, ⟨base, based⟩, listed,
    ?_⟩, Success.forall₂_of_mapM traversed⟩
  intro entry member named
  refine Success.of_mem_mapM led (List.mem_filter.mpr ⟨member, ?_⟩)
  rw [named]
  rfl

theorem operations_of_petsAndCats :
    (∃ api, apiOf (petsAndCats "listPets") none = .ok api ∧
      pascalNames api.operations = ["ListPets".toList, "FindPets".toList, "DeleteCats".toList] ∧
      (pascalNames api.operations).Nodup) ∧
      ∃ source paths operations,
        readSites (petsAndCats "find-pets") none = .ok (source, paths, operations) ∧
          pascalNames operations = ["FindPets".toList, "FindPets".toList, "DeleteCats".toList] ∧
          ∃ earlier later, IsFirstClash operations earlier later ∧
            apiOf (petsAndCats "find-pets") none =
              .error (.failed (.duplicateOperation later.identifier earlier.label later.label)) := by
  constructor
  · have evaluated : (apiOf (petsAndCats "listPets") none).toOption.map
        (fun api => pascalNames api.operations) =
          some ["ListPets".toList, "FindPets".toList, "DeleteCats".toList] := by decide +kernel
    obtain ⟨api, found, names⟩ := Option.map_eq_some_iff.mp evaluated
    have imported := Success.of_toOption found
    obtain ⟨source, paths, _, _, _, _, distinct⟩ := (operations_of_sites _ none).1 api imported
    exact ⟨api, imported, names, distinct⟩
  · have evaluated : (readSites (petsAndCats "find-pets") none).toOption.map
        (fun read => pascalNames read.2.2) =
          some ["FindPets".toList, "FindPets".toList, "DeleteCats".toList] := by decide +kernel
    obtain ⟨⟨source, paths, operations⟩, found, names⟩ := Option.map_eq_some_iff.mp evaluated
    have read := Success.of_toOption found
    obtain ⟨readable, converted⟩ := isReadable_of_readSites read
    have clash : ¬ (pascalNames operations).Nodup := by
      rw [names]
      decide
    exact ⟨source, paths, operations, read, names,
      (operations_of_sites _ none).2 source paths operations readable converted clash⟩

end ApiForge.Import
