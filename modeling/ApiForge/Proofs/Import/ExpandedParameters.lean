import ApiForge.Proofs.Import.ExpandedFields
import ApiForge.Proofs.Import.ParameterNames

/-!
# Parameters of expanded documents

The parameters that are imported from a document and from its expansion are the
same. The two lists of parameters are followed to mappings and to their copies,
which have the same names, so that the same ones are overridden. A parameter's
schema may have disappeared in the expansion when it says nothing.
-/

namespace ApiForge.Import

open Reference (IsExpanded IsFree IsPlain ofValue?)

variable {source copy : Source}

/-! ## Types -/

/-- The value that optional entries have under a key, or null. -/
def readIn (name : Text) (entries : Option Entries) : Value :=
  (entries.bind (Entries.field? name)).getD .null

/-- What the entries say under a key, the copies say too; entries that are absent say nothing. -/
def SayAlike (root : Value) (entries copies : Option Entries) : Prop :=
  ∀ name, AreExpanded root (entries.bind (Entries.field? name)) (copies.bind (Entries.field? name))

theorem typeIn_eq (entries : Option Entries) :
    typeIn entries = (splitType (readIn "type" entries)).1 := by
  cases entries <;> rfl

theorem SayAlike.readIn {root : Value} {entries copies : Option Entries}
    (alike : SayAlike root entries copies) (name : Text) :
    IsExpanded root (readIn name entries) (readIn name copies) :=
  isExpanded_getD (alike name) rfl

theorem sayAlike_of_areCopies {root : Value} {entries copies : Option Entries}
    (alike : Option.Rel (Entries.AreCopies (IsExpanded root)) entries copies) :
    SayAlike root entries copies := by
  intro name
  cases alike with
  | none => exact .none
  | some here => exact here.field? name

theorem isFree_readIn {name : Text} {typed : Option Entries}
    (free : ∀ entries, typed = some entries → HasFree name entries) :
    IsFree (readIn name typed) := by
  cases typed with
  | none => rfl
  | some entries =>
      change IsFree ((Entries.field? name entries).getD .null)
      cases found : Entries.field? name entries with
      | none => rfl
      | some value => exact free entries rfl value found

theorem typeIn_eq_of_sayAlike {root : Value} {entries copies : Option Entries}
    (alike : SayAlike root entries copies)
    (free : ∀ inner, entries = some inner → HasFree "type" inner) :
    typeIn copies = typeIn entries := by
  rw [typeIn_eq, typeIn_eq, (alike.readIn "type").eq_of_isFree (isFree_readIn free)]

/-- Entries that a value which does not hold has say nothing. -/
theorem bind_field?_of_not_holds {value : Value} (empty : value.holds = false) (name : Text) :
    value.entries?.bind (Entries.field? name) = none := by
  cases value with
  | map entries =>
      cases entries with
      | nil => rfl
      | cons entry rest => cases empty
  | _ => rfl

theorem followEntries?_nil (source : Source) :
    source.followEntries? (.map []) = .ok (some []) := by
  unfold Source.followEntries? Source.follow
  rw [Reference.followFrom_of_plain rfl]
  rfl

/-- What leads to nothing in the expansion says nothing. -/
theorem bind_field?_of_empty (expands : ExpandsTo source copy) {value expanded : Value}
    (known : IsExpanded source.root value expanded) (empty : expanded.holds = false)
    {condition : Entries → Prop} (places : AtTarget source condition value)
    {found : Option Entries} (success : source.followEntries? value = .ok found) (name : Text) :
    found.bind (Entries.field? name) = none := by
  obtain ⟨target, followed, rfl⟩ := exists_of_followEntries? success
  have inCopy : Reference.followFrom copy.root [] expanded = .ok expanded :=
    Reference.followFrom_of_plain (ofValue?_of_not_holds empty)
  have made := known.follow expands.expanded expands.paths expands.distinct followed inCopy
    (places.key followed)
  have same := (made.copy (Reference.ofValue?_of_followFrom followed)).holds
  exact bind_field?_of_not_holds (same.trans empty) name

/-- A schema under a key is followed alike, also where nothing is left of it in the expansion. -/
theorem sayAlike_of_followEntries? (expands : ExpandsTo source copy) {name : Text}
    {entries copies : Entries}
    (known : AreExpanded source.root (Entries.field? name entries) (Entries.field? name copies))
    {condition : Entries → Prop}
    (places : AtTarget source condition (Value.fieldOr name entries (.map [])))
    {found led : Option Entries}
    (first : source.followEntries? (Value.fieldOr name entries (.map [])) = .ok found)
    (second : copy.followEntries? (Value.fieldOr name copies (.map [])) = .ok led) :
    SayAlike source.root found led := by
  unfold Value.fieldOr at places first second
  generalize Entries.field? name entries = field at known places first
  generalize Entries.field? name copies = copied at known second
  cases known with
  | none =>
      have known : IsExpanded source.root (.map []) (.map []) := .free rfl
      exact sayAlike_of_areCopies (areCopies_of_followEntries? expands known places first second)
  | @some value expanded here =>
      dsimp only at places first second
      cases left : expanded.holds with
      | true =>
          have holds : value.holds = true := by
            cases empty : value.holds with
            | true => rfl
            | false =>
                have same := (here.copy (ofValue?_of_not_holds empty)).holds
                exact empty.symm.trans (same.trans left)
          rw [if_pos holds] at places first
          rw [if_pos left] at second
          exact sayAlike_of_areCopies (areCopies_of_followEntries? expands here places first second)
      | false =>
          rw [left, if_neg Bool.false_ne_true] at second
          cases (followEntries?_nil copy).symm.trans second
          intro name
          have nothing : found.bind (Entries.field? name) = none := by
            split at first
            · next holds =>
                rw [if_pos holds] at places
                exact bind_field?_of_empty expands here left places first name
            · cases (followEntries?_nil source).symm.trans first
              rfl
          rw [nothing]
          exact .none

/-! ## Single parameters -/

/-- The type that a parameter has, of what its schema names. -/
def givenType (type : Option Text) : Text :=
  match type with
  | some (letter :: rest) => letter :: rest
  | _ => "string"

/-- A parameter is made of what is read of its own entries and of those with its type. -/
theorem parameterAt_eq {location : Location} {entries : Entries} {parameter : Parameter}
    (success : parameterAt source location entries = .ok parameter) :
    ∃ typed itemsType format description, typeSource source entries = .ok typed ∧
      (if typeIn typed = some "array" then itemsTypeIn source typed else pure none) =
        .ok itemsType ∧
      (Checked.optionalText (readIn "format" typed)).within "schema_format" = .ok format ∧
      (Checked.optionalText (Value.fieldOrNull "description" entries)).within "description" =
        .ok description ∧
      parameter = Parameter.make location (Value.fieldOrNull "required" entries).holds
        (displayedField "name" entries) (givenType (typeIn typed)) itemsType format
        description := by
  obtain ⟨typed, found, success⟩ := Success.of_bind success
  refine ⟨typed, ?_⟩
  dsimp only at success
  split at success
  all_goals
    next array =>
      obtain ⟨itemsType, items, success⟩ := Success.of_bind success
      obtain ⟨_, description, formatted, described, rfl⟩ :=
        Success.of_and (Success.of_orAbort success)
      obtain ⟨format, checked, rfl⟩ := Success.of_checkedMap formatted
      refine ⟨itemsType, format, description, found, ?_, ?_, described, rfl⟩
      · simpa only [array, if_true, if_false] using items
      · cases typed <;> exact checked

theorem itemsType_eq (expands : ExpandsTo source copy) {typed copied : Option Entries}
    (alike : SayAlike source.root typed copied)
    (places : ∀ entries, typed = some entries → TypePlaces source entries)
    {itemsType other : Option Text}
    (first : (if typeIn typed = some "array" then itemsTypeIn source typed else pure none) =
      .ok itemsType)
    (second : (if typeIn copied = some "array" then itemsTypeIn copy copied else pure none) =
      .ok other) : other = itemsType := by
  have same := typeIn_eq_of_sayAlike alike fun entries said => (places entries said).type
  rw [same] at second
  split at first
  · next array =>
      rw [if_pos array] at second
      cases typed with
      | none => cases array
      | some entries =>
          cases copied with
          | none => cases same.trans array
          | some copies =>
              obtain ⟨items, found, first⟩ := Success.of_bind first
              obtain ⟨others, led, second⟩ := Success.of_bind second
              cases first
              cases second
              have target := (places entries rfl).items array
              have said := sayAlike_of_followEntries? expands (alike "items") target found led
              refine typeIn_eq_of_sayAlike said fun inner same => ?_
              subst same
              exact (target inner found).2
  · next array =>
      rw [if_neg array] at second
      exact Except.ok.inj (second.symm.trans first)

theorem typeSource_alike (expands : ExpandsTo source copy) {entries copies : Entries}
    (alike : entries.AreCopies (IsExpanded source.root) copies)
    (places : ParameterPlaces source entries) {typed copied : Option Entries}
    (first : typeSource source entries = .ok typed)
    (second : typeSource copy copies = .ok copied) :
    SayAlike source.root typed copied ∧
      ∀ inner, typed = some inner → TypePlaces source inner := by
  have condition := places.typed
  unfold typeSource at first second
  rw [expands.dialect] at second
  generalize source.dialect = dialect at condition first second
  cases dialect with
  | swagger =>
      cases first
      cases second
      refine ⟨sayAlike_of_areCopies (.some alike), ?_⟩
      rintro _ ⟨⟩
      exact condition
  | openApi =>
      refine ⟨sayAlike_of_followEntries? expands (alike.field? "schema") condition first second, ?_⟩
      rintro inner rfl
      exact (condition inner first).2

/-- A parameter is imported alike from a mapping and from its copy. -/
theorem parameterAt_alike (expands : ExpandsTo source copy) {entries copies : Entries}
    (alike : entries.AreCopies (IsExpanded source.root) copies)
    (named : HasFree "name" entries) (places : ParameterPlaces source entries)
    {location : Location} {parameter other : Parameter}
    (first : parameterAt source location entries = .ok parameter)
    (second : parameterAt copy location copies = .ok other) : other = parameter := by
  obtain ⟨typed, itemsType, format, description, found, items, formatted, described, rfl⟩ :=
    parameterAt_eq first
  obtain ⟨copied, otherItems, otherFormat, otherDescription, led, copiedItems, copiedFormat,
    copiedDescription, rfl⟩ := parameterAt_eq second
  obtain ⟨said, types⟩ := typeSource_alike expands alike places found led
  have name : displayedField "name" copies = displayedField "name" entries := by
    unfold displayedField
    rw [field?_eq_of_hasFree alike named]
  rw [itemsType_eq expands said types items copiedItems,
    optionalText_eq (said.readIn "format") formatted copiedFormat,
    optionalText_eq (isExpanded_fieldOrNull alike "description") described copiedDescription,
    typeIn_eq_of_sayAlike said fun inner same => (types inner same).type,
    holds_fieldOrNull_eq alike places.required, name]

/-! ## Merged parameters -/

/-- The mapping of a parameter, whose name is the same in the copy. -/
structure IsParameterCopy (root : Value) (entries copies : Entries) : Prop where
  alike : entries.AreCopies (IsExpanded root) copies
  named : HasFree "name" entries

theorem hasFree_of_nameOf {entries : Entries} (free : IsFree (nameOf entries)) :
    HasFree "name" entries := by
  intro value found
  unfold nameOf Value.fieldOrNull at free
  rwa [found] at free

theorem nameOf_eq {root : Value} {entries copies : Entries}
    (alike : entries.AreCopies (IsExpanded root) copies) (free : HasFree "name" entries) :
    nameOf copies = nameOf entries :=
  fieldOrNull_eq_of_hasFree alike free

/-- Where lists of parameters can be merged, all names are scalars or sets. -/
theorem hasFree_of_merged {shared own : Value} {merged ofPath ofOperation : List Entries}
    (success : mergedParameters source shared own = .ok merged)
    (inPath : declaredIn source shared = .ok ofPath)
    (inOperation : declaredIn source own = .ok ofOperation) :
    (∀ entries ∈ ofPath, HasFree "name" entries) ∧
      ∀ entries ∈ ofOperation, HasFree "name" entries := by
  obtain ⟨sharedNodes, sharedListed, success⟩ := Success.of_bind success
  obtain ⟨sharedMaps, sharedFound, success⟩ := Success.of_bind success
  obtain ⟨ownNodes, ownListed, success⟩ := Success.of_bind success
  obtain ⟨ownMaps, ownFound, success⟩ := Success.of_bind success
  obtain ⟨overridden, named, success⟩ := Success.of_bind success
  obtain ⟨kept, filtered, _⟩ := Success.of_bind success
  unfold declaredIn at inPath inOperation
  rw [sharedListed] at inPath
  rw [ownListed] at inOperation
  cases sharedFound.symm.trans inPath
  cases ownFound.symm.trans inOperation
  constructor
  · intro entries member
    obtain ⟨answer, tested⟩ := Success.of_mem_filterM filtered member
    refine hasFree_of_nameOf ?_
    unfold isKept at tested
    cases name : nameOf entries with
    | scalar _ | set _ => rfl
    | list _ | map _ | pair _ _ =>
        rw [name] at tested
        cases tested
  · intro entries member
    obtain ⟨scalar, compared⟩ := Success.of_mem_mapM named member
    refine hasFree_of_nameOf ?_
    cases name : nameOf entries with
    | scalar _ | set _ => rfl
    | list _ | map _ | pair _ _ =>
        rw [name] at compared
        cases compared

/-- A list of parameters is followed to mappings, and in the expansion to their copies. -/
theorem declaredIn_alike (expands : ExpandsTo source copy) {list expanded : Value}
    (known : IsExpanded source.root list expanded) (places : ParameterListPlaces source list)
    {declared copied : List Entries} (first : declaredIn source list = .ok declared)
    (second : declaredIn copy expanded = .ok copied) :
    List.Forall₂ (Entries.AreCopies (IsExpanded source.root)) declared copied := by
  obtain ⟨nodes, listed, first⟩ := Success.of_bind first
  obtain ⟨copies, copiedListed, second⟩ := Success.of_bind second
  obtain ⟨found, followed, first⟩ := Success.of_bind first
  obtain ⟨led, copiedFollowed, second⟩ := Success.of_bind second
  cases first
  cases second
  have elements := areExpanded_elements? known places.plain
  rw [Success.of_foreseen listed, Success.of_foreseen copiedListed] at elements
  cases elements with
  | some pairs =>
      have maps := Success.forall₂_of_two_mapM pairs followed copiedFollowed
        fun node member expanded here _ _ first second =>
          areCopies_of_followEntries? expands here
            (places.each nodes (Success.of_foreseen listed) node member) first second
      exact List.rel_filterMap (fun _ _ alike => alike) maps

theorem survivors_alike {root : Value} {ofPath ofOperation pathCopies copies : List Entries}
    (paths : List.Forall₂ (IsParameterCopy root) ofPath pathCopies)
    (names : copies.map nameOf = ofOperation.map nameOf) :
    List.Forall₂ (IsParameterCopy root) (survivors ofPath ofOperation)
      (survivors pathCopies copies) := by
  refine Success.forall₂_filter paths fun entries copy here => congrArg not ?_
  have moved := congrArg (List.any · fun name => (comparable? name).any fun given =>
    (comparable? (nameOf entries)).any fun other => given.isSameKey other) names
  rw [List.any_map, List.any_map] at moved
  unfold haveSameName
  rw [nameOf_eq here.alike here.named]
  exact moved

/-- The merged parameters of the expansion are copies of those of the document, with the same
names. -/
theorem merged_alike (expands : ExpandsTo source copy) {shared own sharedCopy ownCopy : Value}
    (ofShared : IsExpanded source.root shared sharedCopy)
    (ofOwn : IsExpanded source.root own ownCopy) (sharedPlaces : ParameterListPlaces source shared)
    (ownPlaces : ParameterListPlaces source own) {merged copied : List Entries}
    (first : mergedParameters source shared own = .ok merged)
    (second : mergedParameters copy sharedCopy ownCopy = .ok copied) :
    List.Forall₂ (IsParameterCopy source.root) merged copied := by
  obtain ⟨ofPath, ofOperation, inPath, inOperation, rfl⟩ := merged_eq first
  obtain ⟨pathCopies, copies, copiedPath, copiedOperation, rfl⟩ := merged_eq second
  obtain ⟨pathNames, ownNames⟩ := hasFree_of_merged first inPath inOperation
  have paths := Success.forall₂_of_mem
    (declaredIn_alike expands ofShared sharedPlaces inPath copiedPath)
    fun entries member copy here => IsParameterCopy.mk here (pathNames entries member)
  have operations := Success.forall₂_of_mem
    (declaredIn_alike expands ofOwn ownPlaces inOperation copiedOperation)
    fun entries member copy here => IsParameterCopy.mk here (ownNames entries member)
  have names : copies.map nameOf = ofOperation.map nameOf :=
    Success.map_eq_of_forall₂ operations nameOf nameOf fun _ _ here =>
      nameOf_eq here.alike here.named
  exact List.rel_append (survivors_alike paths names) operations

theorem locationOf_alike {root : Value} {entries copies : Entries}
    (alike : entries.AreCopies (IsExpanded root) copies) {location : Option Location}
    (success : locationOf entries = .ok location) : locationOf copies = .ok location := by
  have known := isExpanded_fieldOrNull alike "in"
  unfold locationOf at success ⊢
  cases place : Value.fieldOrNull "in" entries with
  | scalar _ | set _ =>
      rw [place] at known
      rw [known.eq_of_isFree rfl, ← place]
      exact success
  | list _ | map _ | pair _ _ =>
      rw [place] at success
      cases success

/-- The parameters that are imported from merged mappings and from their copies are the same. -/
theorem parametersOf_alike (expands : ExpandsTo source copy) {merged copied : List Entries}
    (pairs : List.Forall₂ (IsParameterCopy source.root) merged copied)
    (places : ∀ entries ∈ merged, ∀ location, locationOf entries = .ok (some location) →
      ParameterPlaces source entries)
    {parameters others : List Parameter} (first : parametersOf source merged = .ok parameters)
    (second : parametersOf copy copied = .ok others) : others = parameters := by
  obtain ⟨found, traversed, first⟩ := Success.of_bind first
  obtain ⟨led, copiedTraversed, second⟩ := Success.of_bind second
  cases first
  cases second
  have same : List.Forall₂ Eq found led := by
    refine Success.forall₂_of_two_mapM pairs traversed copiedTraversed ?_
    intro entries member copies here result other first second
    obtain ⟨location, located, first⟩ := Success.of_bind first
    obtain ⟨copiedLocation, copiedLocated, second⟩ := Success.of_bind second
    cases (locationOf_alike here.alike located).symm.trans copiedLocated
    cases location with
    | none =>
        cases first
        cases second
        rfl
    | some location =>
        obtain ⟨parameter, imported, rfl⟩ := Success.of_map first
        obtain ⟨otherParameter, copiedImported, rfl⟩ := Success.of_map second
        rw [parameterAt_alike expands here.alike here.named
          (places entries member location located) imported copiedImported]
  rw [List.forall₂_eq_eq_eq] at same
  rw [same]

end ApiForge.Import
