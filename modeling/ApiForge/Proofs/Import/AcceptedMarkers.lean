import ApiForge.Proofs.Import.ExpandedApi

/-!
# Accepted markers and locations

That a description is accepted is decided by the values of its two marker
fields, and where its parts are looked for is decided by whether there is a
field for the newer marker. The two decisions agree unless the older marker is
accepted beside a field for the newer one that holds no version of it.
-/

namespace ApiForge

/-! ## Markers -/

namespace Dialect

/-- The field of the dialect's marker. -/
def markerField : Dialect → Text
  | .openApi => "openapi"
  | .swagger => "swagger"

/-- The major version of the dialect. -/
def major : Dialect → Text
  | .openApi => "3"
  | .swagger => "2"

/-- The field of the dialect's marker holds a value with this text, a version of the dialect. -/
def IsMarked (dialect : Dialect) (entries : Entries) (text : Text) : Prop :=
  ∃ value, Entries.field? dialect.markerField entries = some value ∧ value.isNull = false ∧
    value.display = text ∧ dialect.major ++ ['.'] <+: text

end Dialect

namespace Document

variable {entries : Entries} {dialect : Dialect} {text : Text}

/-- The dialect whose marker is accepted: the older one's if there is none of the newer one. -/
inductive IsAcceptedFrom (entries : Entries) : Dialect → Text → Prop where
  | openApi {text : Text} (marked : Dialect.openApi.IsMarked entries text) :
      IsAcceptedFrom entries .openApi text
  | swagger {text : Text} (unmarked : ∀ other, ¬ Dialect.openApi.IsMarked entries other)
      (marked : Dialect.swagger.IsMarked entries text) : IsAcceptedFrom entries .swagger text

theorem marker?_eq_some_iff (dialect : Dialect) (entries : Entries) (text : Text) :
    marker? dialect.markerField dialect.major entries = some text ↔
      dialect.IsMarked entries text := by
  unfold marker? Dialect.IsMarked
  constructor
  · intro marked
    split at marked
    · next value found =>
        split at marked
        · cases marked
        · next given =>
            split at marked
            · next starts =>
                cases marked
                exact ⟨value, found, eq_false_of_ne_true given, rfl,
                  List.isPrefixOf_iff_prefix.mp starts⟩
            · cases marked
    · cases marked
  · rintro ⟨value, found, given, rfl, starts⟩
    rw [found]
    dsimp only
    rw [given, if_neg Bool.false_ne_true]
    exact if_pos (List.isPrefixOf_iff_prefix.mpr starts)

/-- A description is accepted for the marker of a dialect. -/
theorem version_eq_ok_iff :
    version (.map entries) = .ok text ↔ ∃ dialect, IsAcceptedFrom entries dialect text := by
  have newerMarked := marker?_eq_some_iff .openApi entries
  have olderMarked := marker?_eq_some_iff .swagger entries
  unfold version
  dsimp only
  cases newer : marker? "openapi" "3" entries with
  | some found =>
      have marked := (newerMarked found).mp newer
      constructor
      · intro accepted
        cases accepted
        exact ⟨.openApi, .openApi marked⟩
      · rintro ⟨_, ⟨other⟩ | ⟨unmarked, _⟩⟩
        · exact congrArg Except.ok (Option.some.inj (newer.symm.trans ((newerMarked text).mpr other)))
        · exact absurd marked (unmarked _)
  | none =>
      have unmarked : ∀ other, ¬ Dialect.openApi.IsMarked entries other := fun other marked =>
        nomatch newer.symm.trans ((newerMarked other).mpr marked)
      dsimp only
      constructor
      · intro accepted
        split at accepted
        · next older =>
            cases accepted
            exact ⟨.swagger, .swagger unmarked ((olderMarked text).mp older)⟩
        · cases accepted
      · rintro ⟨_, ⟨marked⟩ | ⟨_, marked⟩⟩
        · exact absurd marked (unmarked text)
        · have older : marker? "swagger" "2" entries = some text := (olderMarked text).mpr marked
          rw [older]

/-- No description is accepted for the markers of both dialects. -/
theorem IsAcceptedFrom.unique {other : Dialect} {otherText : Text}
    (accepted : IsAcceptedFrom entries dialect text)
    (again : IsAcceptedFrom entries other otherText) : other = dialect := by
  cases accepted with
  | openApi marked =>
      cases again with
      | openApi => rfl
      | swagger unmarked => exact absurd marked (unmarked text)
  | swagger unmarked =>
      cases again with
      | openApi marked => exact absurd marked (unmarked otherText)
      | swagger => rfl

end Document

/-! ## Locations -/

namespace Import

variable {entries : Entries} {dialect : Dialect} {text : Text}

/-- Where the parts are that the dialects keep at different places. -/
structure Locations where
  start : Text
  definitions : Entries → Except Abort Entries
  base : Source → Except Abort Value
  body : Source → Entries → List Entries → Except Abort (Option RequestBody)
  typed : Source → Entries → Except Abort (Option Entries)
  content : Source → Entries → Entries → Except Abort (Value × Option Schema)

namespace Locations

/-- Named schemas under `definitions`, the base URL in `host` and `basePath`, bodies among the
parameters, and what a type is inside the parameter or the response itself. -/
def older : Locations where
  start := "#/definitions/"
  definitions := Value.fieldEntries "definitions"
  base := hostBase
  body := bodyOfParameters
  typed _ parameter := .ok (some parameter)
  content := producedBy

/-- Named schemas under `components`, the base URL in `servers`, a body in `requestBody`, and what a
type is in the `schema` of the parameter or the `content` of the response. -/
def newer : Locations where
  start := "#/components/schemas/"
  definitions entries := Value.fieldEntries "components" entries >>= Value.fieldEntries "schemas"
  base := serverBase
  body source operation _ := bodyOf source (Value.fieldOrNull "requestBody" operation)
  typed source parameter := source.followEntries? (Value.fieldOr "schema" parameter (.map []))
  content source _ response := contentOf source response

def ofDialect : Dialect → Locations
  | .swagger => older
  | .openApi => newer

/-- What a source keeps at different places in the dialects is read at these. -/
structure AreReadBy (locations : Locations) (source : Source) : Prop where
  base : ∀ foundAt, baseUrlOf source foundAt = locations.base source >>= placedBase foundAt
  body : ∀ path shared method fields operation,
    operationOf source path shared method fields = .ok operation →
    ∃ merged, mergedParameters source shared (Value.fieldOr "parameters" fields (.list [])) =
      .ok merged ∧ locations.body source fields merged = .ok operation.body
  typed : ∀ parameter, typeSource source parameter = locations.typed source parameter
  content : ∀ fields status node response,
    responseOf source fields status node = .ok (some response) →
    ∃ inside answer, source.followEntries? node = .ok (some inside) ∧
      locations.content source fields inside = .ok answer ∧ response.schema = answer.2 ∧
      (Checked.optionalText answer.1).within "content_type" = .ok response.contentType

/-- A description's named schemas are looked up and referred to at these locations, whether or not
they can be, and the rest is read at them too. -/
structure AreReadIn (locations : Locations) (entries : Entries) : Prop where
  start : (Dialect.ofEntries entries).schemaStart = locations.start
  definitions : Source.ofDocument (.map entries) =
    (locations.definitions entries).map fun definitions =>
      ⟨entries, Dialect.ofEntries entries, definitions, Reference.distinctIn (.map entries)⟩
  others : ∀ source, Source.ofDocument (.map entries) = .ok source → locations.AreReadBy source

theorem schemaStart_eq_start (dialect : Dialect) :
    dialect.schemaStart = (ofDialect dialect).start := by
  cases dialect <;> rfl

theorem eq_of_schemaStart_eq {dialect other : Dialect}
    (same : dialect.schemaStart = other.schemaStart) : dialect = other := by
  revert same
  cases dialect <;> cases other <;> decide

theorem areReadBy_dialect (source : Source) : (ofDialect source.dialect).AreReadBy source := by
  refine ⟨fun foundAt => ?_, fun path shared method fields operation made => ?_,
    fun parameter => ?_, fun fields status node response made => ?_⟩
  · rw [baseUrlOf_eq]
    cases source.dialect <;> rfl
  · obtain ⟨merged, parts⟩ := exists_isMadeOf made
    refine ⟨merged, parts.united, ?_⟩
    rw [← parts.body]
    cases source.dialect <;> rfl
  · unfold typeSource
    cases source.dialect <;> rfl
  · have proper : status.startsWith "x-" = false := by
      by_contra extension
      unfold responseOf at made
      rw [if_pos (eq_true_of_ne_false extension)] at made
      cases made
    obtain ⟨found, followed, mapped, missing⟩ := responseOf_eq proper made
    cases found with
    | none => cases missing rfl
    | some inside =>
        obtain ⟨answer, description, contentType, answered, _, typed, same⟩ := mapped inside rfl
        cases same
        refine ⟨inside, answer, followed, ?_, rfl, typed⟩
        rw [← answered]
        cases source.dialect <;> rfl

theorem ofDocument_eq (entries : Entries) :
    Source.ofDocument (.map entries) =
      ((ofDialect (Dialect.ofEntries entries)).definitions entries).map fun definitions =>
        ⟨entries, Dialect.ofEntries entries, definitions, Reference.distinctIn (.map entries)⟩ := by
  have same : (Dialect.ofEntries entries).definitions entries =
      (ofDialect (Dialect.ofEntries entries)).definitions entries := by
    cases Dialect.ofEntries entries <;> rfl
  rw [← same]
  change (Dialect.ofEntries entries).definitions entries >>= _ = _
  cases (Dialect.ofEntries entries).definitions entries <;> rfl

/-- A description in a dialect is read at the locations of that dialect and no other. -/
theorem areReadIn_iff (dialect : Dialect) (entries : Entries) :
    (ofDialect dialect).AreReadIn entries ↔ Dialect.ofEntries entries = dialect := by
  constructor
  · intro read
    exact eq_of_schemaStart_eq (read.start.trans (schemaStart_eq_start dialect).symm)
  · rintro rfl
    refine ⟨schemaStart_eq_start _, ofDocument_eq entries, fun source opened => ?_⟩
    obtain ⟨same, chosen, _⟩ := root_of_ofDocument opened
    cases same
    rw [← chosen]
    exact areReadBy_dialect source

end Locations

/-! ## The two decisions -/

theorem contains_eq_isSome (key : Scalar) (entries : Entries) :
    Entries.contains key entries = (Entries.find? key entries).isSome := by
  rw [Entries.contains, Entries.find?, Option.isSome_map, List.isSome_find?]

/-- Where the newer marker is accepted, its field decides the dialect. -/
theorem contains_of_isMarked (marked : Dialect.openApi.IsMarked entries text) :
    Entries.contains (.str "openapi") entries = true := by
  obtain ⟨value, found, _⟩ := marked
  have here : Entries.find? (.str "openapi") entries = some value := found
  rw [contains_eq_isSome, here]
  rfl

/-- Where the older marker is accepted, it is read if there is no field for the newer one. -/
theorem ofEntries_of_isMarked (marked : Dialect.swagger.IsMarked entries text) :
    Dialect.ofEntries entries = .swagger ↔
      Entries.contains (.str "openapi") entries = false := by
  obtain ⟨value, found, _, rfl, starts⟩ := marked
  have here : Entries.field? "swagger" entries = some value := found
  unfold Dialect.ofEntries
  cases Entries.contains (.str "openapi") entries with
  | true => simp
  | false =>
      rw [if_neg Bool.false_ne_true, here]
      dsimp only
      have begins : value.display.startsWith "2." = true := List.isPrefixOf_iff_prefix.mpr starts
      rw [if_pos begins]
      simp

/-- The dialect of an accepted description is that of its marker, unless the older marker stands
beside a field for the newer one. -/
theorem ofEntries_of_isAcceptedFrom (accepted : Document.IsAcceptedFrom entries dialect text) :
    Dialect.ofEntries entries = .swagger ↔
      dialect = .swagger ∧ Entries.contains (.str "openapi") entries = false := by
  cases accepted with
  | openApi marked =>
      have present := contains_of_isMarked marked
      rw [Dialect.ofEntries, if_pos present]
      simp
  | swagger _ marked => simp [ofEntries_of_isMarked marked]

/-- An accepted description is accepted for the marker of one dialect. It is read at the older
locations if that is the older dialect and there is no field for the newer marker, and otherwise at
the newer locations. -/
theorem areReadIn_of_version (accepted : Document.version (.map entries) = .ok text) :
    ∃ dialect, (∀ other, Document.IsAcceptedFrom entries other text ↔ other = dialect) ∧
      (Locations.older.AreReadIn entries ↔
        dialect = .swagger ∧ Entries.contains (.str "openapi") entries = false) ∧
      (Locations.newer.AreReadIn entries ↔
        dialect = .openApi ∨ Entries.contains (.str "openapi") entries = true) := by
  obtain ⟨dialect, marked⟩ := Document.version_eq_ok_iff.mp accepted
  have decided := ofEntries_of_isAcceptedFrom marked
  have atOlder := Locations.areReadIn_iff .swagger entries
  have atNewer := Locations.areReadIn_iff .openApi entries
  refine ⟨dialect, fun other => ⟨marked.unique, fun same => same ▸ marked⟩, atOlder.trans decided,
    atNewer.trans ?_⟩
  have opposite : Dialect.ofEntries entries = .openApi ↔ ¬ Dialect.ofEntries entries = .swagger := by
    cases Dialect.ofEntries entries <;> simp
  rw [opposite, decided, not_and_or, Bool.not_eq_false]
  cases dialect <;> simp

/-- A description in the older dialect, with other fields before its own. -/
def petEntries (others : Entries) : Entries :=
  others ++ [
    (.str "swagger", .str "2.0"), (.str "host", .str "pets.test"), (.str "basePath", .str "/v1"),
    (.str "definitions", .map [(.str "Pet", .map [(.str "type", .str "object")])]),
    (.str "paths", .map [(.str "/pets", .map [(.str "post", .map [
      (.str "parameters", .list [.map [(.str "name", .str "pet"), (.str "in", .str "body"),
        (.str "schema", .map [(.str "$ref", .str "#/definitions/Pet")])]])])])])]

/-- Without a field for the newer marker it is read at the older locations. -/
theorem areReadIn_petEntries :
    Document.version (.map (petEntries [])) = .ok "2.0" ∧
      Locations.older.AreReadIn (petEntries []) ∧ ¬ Locations.newer.AreReadIn (petEntries []) := by
  have accepted : Document.version (.map (petEntries [])) = .ok "2.0" := by rfl
  obtain ⟨dialect, unique, atOlder, atNewer⟩ := areReadIn_of_version accepted
  have absent : Entries.contains (.str "openapi") (petEntries []) = false := by decide +kernel
  have marked : Document.IsAcceptedFrom (petEntries []) dialect "2.0" := (unique dialect).mpr rfl
  have older : dialect = .swagger := by
    cases marked with
    | openApi marked => exact absurd (contains_of_isMarked marked) (by rw [absent]; decide)
    | swagger => rfl
  refine ⟨accepted, atOlder.mpr ⟨older, absent⟩, fun read => ?_⟩
  rcases atNewer.mp read with newer | present
  · cases older.symm.trans newer
  · cases absent.symm.trans present

/-- The same description with a null for the newer marker. -/
def nullMarked : Entries :=
  petEntries [(.str "openapi", .null)]

/-- With a null in that field it is still accepted for the older marker, and yet read at the newer
locations, where it has no schemas, no base URL and no bodies. -/
theorem not_areReadIn_nullMarked :
    Document.version (.map nullMarked) = .ok "2.0" ∧
      Document.IsAcceptedFrom nullMarked .swagger "2.0" ∧
      ¬ Locations.older.AreReadIn nullMarked ∧ Locations.newer.AreReadIn nullMarked ∧
      ∃ api, apiOf (.map nullMarked) none = .ok api ∧ api.schemas = [] ∧ api.baseUrl = none ∧
        ∀ operation ∈ api.operations, operation.body = none := by
  have unmarked : ∀ text, ¬ Dialect.openApi.IsMarked nullMarked text := by
    rintro text ⟨value, found, given, _⟩
    cases found
    cases given
  have marked : Dialect.swagger.IsMarked nullMarked "2.0" :=
    ⟨.str "2.0", by rfl, rfl, rfl, by decide⟩
  have dialect : Dialect.ofEntries nullMarked = .openApi := by rfl
  have atOlder := Locations.areReadIn_iff .swagger nullMarked
  have atNewer := Locations.areReadIn_iff .openApi nullMarked
  have imported : ((apiOf (.map nullMarked) none).toOption.map fun api =>
      (api.schemas.isEmpty, api.baseUrl, api.operations.all (·.body.isNone))) =
      some (true, none, true) := by
    decide +kernel
  obtain ⟨api, found, seen⟩ := Option.map_eq_some_iff.mp imported
  simp only [Prod.mk.injEq, List.isEmpty_iff, List.all_eq_true, Option.isNone_iff_eq_none] at seen
  refine ⟨by rfl, .swagger unmarked marked, fun read => ?_, atNewer.mpr dialect,
    api, Success.of_toOption found, seen⟩
  cases dialect.symm.trans (atOlder.mp read)

end Import

end ApiForge
