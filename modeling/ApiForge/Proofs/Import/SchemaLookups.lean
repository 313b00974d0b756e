import ApiForge.Proofs.Import.AcceptedMarkers
import ApiForge.Proofs.Import.BoundedRuns
import ApiForge.Proofs.Reference.CyclePoints
import ApiForge.Proofs.Reference.PointerPaths

/-!
# Two ways to a named schema

A reference of one segment after the start of the named schemas is not followed:
its name is cut out of it and looked up among the named schemas. Following it as a
pointer leads to the same schema. Other references are replaced by what they lead
to, and where that ends at a name, the last of these references is of the first
kind.
-/

namespace ApiForge

namespace Dialect

/-- The steps from a document to its named schemas. -/
def schemaWay : Dialect → List Text
  | .openApi => ["components", "schemas"]
  | .swagger => ["definitions"]

/-- A reference to a named schema begins with these steps, each of them with a slash after it. -/
theorem schemaStart_eq (dialect : Dialect) :
    dialect.schemaStart = '#' :: '/' :: dialect.schemaWay.flatMap (· ++ ['/']) := by
  cases dialect <;> decide

theorem pointerOf_schemaWay (dialect : Dialect) (segment : Text) :
    Reference.pointerOf (dialect.schemaWay ++ [segment]) = dialect.schemaStart ++ segment := by
  rw [Reference.pointerOf_concat, schemaStart_eq]
  rfl

theorem map_unescape_schemaWay (dialect : Dialect) :
    dialect.schemaWay.map Reference.unescape = dialect.schemaWay := by
  cases dialect <;> decide

theorem slash_not_mem_schemaWay (dialect : Dialect) :
    ∀ segment ∈ dialect.schemaWay, '/' ∉ segment := by
  cases dialect <;> decide

end Dialect

namespace Import

open Reference (ofValue? referenceTo target unescape walk)

/-! ## The map of named schemas -/

/-- The named schemas of a document stand in a mapping with these entries. -/
inductive HasSchemaMap : Value → Entries → Prop where
  | openApi {entries components definitions : Entries}
      (dialect : Dialect.ofEntries entries = .openApi)
      (outer : Entries.field? "components" entries = some (.map components))
      (inner : Entries.field? "schemas" components = some (.map definitions)) :
      HasSchemaMap (.map entries) definitions
  | swagger {entries definitions : Entries} (dialect : Dialect.ofEntries entries = .swagger)
      (held : Entries.field? "definitions" entries = some (.map definitions)) :
      HasSchemaMap (.map entries) definitions

theorem fieldEntries_of_map {name : Text} {entries inner : Entries}
    (found : Entries.field? name entries = some (.map inner)) :
    Value.fieldEntries name entries = .ok inner := by
  unfold Value.fieldEntries Value.fieldOr
  rw [found]
  cases inner <;> rfl

theorem exists_source_of_definitions {entries definitions : Entries}
    (listed : (Dialect.ofEntries entries).definitions entries = .ok definitions) :
    ∃ source, Source.ofDocument (.map entries) = .ok source ∧ source.definitions = definitions := by
  refine ⟨⟨entries, Dialect.ofEntries entries, definitions,
    Reference.distinctIn (.map entries)⟩, ?_, rfl⟩
  change (Dialect.ofEntries entries).definitions entries >>= _ = _
  rw [listed]
  rfl

/-- A document with a map of named schemas is a source, with these schemas. -/
theorem exists_source_of_hasSchemaMap {document : Value} {definitions : Entries}
    (mapped : HasSchemaMap document definitions) :
    ∃ source, Source.ofDocument document = .ok source ∧ source.definitions = definitions := by
  cases mapped with
  | openApi dialect outer inner =>
      refine exists_source_of_definitions ?_
      rw [dialect]
      change Value.fieldEntries "components" _ >>= Value.fieldEntries "schemas" = _
      rw [fieldEntries_of_map outer]
      exact fieldEntries_of_map inner
  | swagger dialect held =>
      refine exists_source_of_definitions ?_
      rw [dialect]
      exact fieldEntries_of_map held

/-! ## Following a pointer to a named schema -/

/-- No step goes into a value that does not hold. -/
theorem walk_of_not_holds {value found : Value} (empty : value.holds = false) (segment : Text)
    (rest : List Text) : walk value (segment :: rest) ≠ .ok found := by
  intro success
  cases value with
  | map entries =>
      obtain rfl : entries = [] := by simpa [Value.holds] using empty
      cases success
  | list items =>
      obtain rfl : items = [] := by simpa [Value.holds] using empty
      have none : (Numeral.integer? segment).bind (Reference.itemAt? []) = none := by
        cases Numeral.integer? segment with
        | none => rfl
        | some position => cases position <;> rfl
      simp only [walk, Reference.step, none] at success
      cases success
  | pair => cases empty
  | _ => cases success

/-- Steps through a field lead where they lead from its entries. -/
theorem walk_fieldEntries {name segment : Text} {rest : List Text} {entries inner : Entries}
    {value : Value} (found : Value.fieldEntries name entries = .ok inner) :
    walk (.map entries) (name :: segment :: rest) = .ok value ↔
      walk (.map inner) (segment :: rest) = .ok value := by
  have unheld : walk (.map []) (segment :: rest) ≠ .ok value :=
    walk_of_not_holds rfl segment rest
  have held := Success.of_foreseen found
  unfold Value.fieldOr at held
  rw [walk, Reference.step]
  cases known : Entries.field? name entries with
  | none =>
      rw [known] at held
      cases held
      refine ⟨fun success => ?_, fun success => absurd success unheld⟩
      cases success
  | some outer =>
      rw [known] at held
      dsimp only at held ⊢
      split at held
      · cases outer with
        | map _ =>
            cases held
            exact Iff.rfl
        | _ => cases held
      · next empty =>
          cases held
          have unled : walk outer (segment :: rest) ≠ .ok value :=
            walk_of_not_holds (eq_false_of_ne_true empty) segment rest
          exact ⟨fun success => absurd success unled, fun success => absurd success unheld⟩

theorem walk_key {name : Text} {entries : Entries} {value : Value} :
    walk (.map entries) [name] = .ok value ↔ Entries.field? name entries = some value := by
  rw [walk, Reference.step]
  cases Entries.field? name entries with
  | none => simp
  | some found => simp [walk]

/-- The steps to a named schema lead to its definition. -/
theorem walk_schemaWay {dialect : Dialect} {entries definitions : Entries} {value : Value}
    (listed : dialect.definitions entries = .ok definitions) (name : Text) :
    walk (.map entries) (dialect.schemaWay ++ [name]) = .ok value ↔
      Entries.field? name definitions = some value := by
  cases dialect with
  | swagger => exact (walk_fieldEntries listed).trans walk_key
  | openApi =>
      obtain ⟨components, outer, inner⟩ := Success.of_bind listed
      exact (walk_fieldEntries outer).trans ((walk_fieldEntries inner).trans walk_key)

/-- With one segment after the start of the named schemas, a pointer goes by the key that the
segment stands for. -/
theorem segments?_schemaStart (dialect : Dialect) {segment : Text} (single : '/' ∉ segment) :
    Reference.segments? (dialect.schemaStart ++ segment) =
      some (dialect.schemaWay ++ [unescape segment]) := by
  refine Reference.segments?_eq_some_iff.mpr ⟨dialect.schemaWay ++ [segment], by simp, ?_, ?_, ?_⟩
  · intro other member
    rcases List.mem_append.mp member with onWay | last
    · exact dialect.slash_not_mem_schemaWay other onWay
    · exact List.mem_singleton.mp last ▸ single
  · exact (dialect.pointerOf_schemaWay segment).symm
  · rw [List.map_append, dialect.map_unescape_schemaWay, List.map_singleton]

/-- Such a pointer names the definition under that key. -/
theorem target_schemaStart {document : Value} {source : Source}
    (opened : Source.ofDocument document = .ok source) {segment : Text} (single : '/' ∉ segment)
    {value : Value} :
    target source.root (source.dialect.schemaStart ++ segment) = .ok value ↔
      Entries.field? (unescape segment) source.definitions = some value := by
  obtain ⟨_, _, listed, _⟩ := root_of_ofDocument opened
  rw [Reference.target_eq_ok_iff_walk, segments?_schemaStart source.dialect single]
  simp only [Option.some.injEq, exists_eq_left']
  exact walk_schemaWay listed _

/-! ## References in schemas -/

theorem formOf_eq_reference_iff {node : Value} {reference : Text} :
    formOf node = .ok (.reference reference) ↔ ofValue? node = some reference := by
  cases node with
  | map entries =>
      simp only [formOf, ofValue?]
      cases Reference.ofEntries? entries with
      | some other => simp
      | none =>
          constructor
          · intro formed
            dsimp only at formed
            split at formed
            · cases formed
            · rcases plainForm_cases formed with ⟨_, _, same⟩ | ⟨_, same⟩ | ⟨_, _, _, _, same⟩ |
                ⟨_, _, same⟩
              all_goals cases same
          · intro stands
            cases stands
  | _ =>
      constructor
      all_goals
        intro impossible
        cases impossible

theorem schemaName?_schemaStart (source : Source) (segment : Text) :
    source.schemaName? (source.dialect.schemaStart ++ segment) =
      .ok (if segment = [] ∨ '/' ∈ segment then none else some (unescape segment)) := by
  have internal : (source.dialect.schemaStart ++ segment).startsWith "#/" = true := by
    rw [Dialect.schemaStart_eq]
    rfl
  have started : (source.dialect.schemaStart ++ segment).startsWith source.dialect.schemaStart =
      true :=
    List.isPrefixOf_iff_prefix.mpr (List.prefix_append ..)
  unfold Source.schemaName?
  simp only [internal, started, List.drop_left, Bool.not_true, Bool.false_or,
    if_neg Bool.false_ne_true]
  by_cases unnamed : segment = [] ∨ '/' ∈ segment
  · rw [if_pos unnamed, if_pos (by simpa using unnamed)]
  · rw [if_neg unnamed, if_neg (by simpa using unnamed)]

/-- A reference with a name in it is one segment after the start of the named schemas. -/
theorem exists_segment_of_schemaName? {source : Source} {reference name : Text}
    (named : source.schemaName? reference = .ok (some name)) :
    ∃ segment, reference = source.dialect.schemaStart ++ segment ∧ segment ≠ [] ∧
      '/' ∉ segment ∧ name = unescape segment := by
  have started : source.dialect.schemaStart <+: reference := by
    unfold Source.schemaName? at named
    dsimp only at named
    split at named
    · cases named
    · split at named
      · cases named
      · next begins =>
          simp only [Bool.or_eq_true, not_or, Bool.not_eq_true', Bool.not_eq_false] at begins
          exact List.isPrefixOf_iff_prefix.mp begins.1.1
  obtain ⟨segment, rfl⟩ := started
  rw [schemaName?_schemaStart] at named
  split at named
  · cases named
  · next plain =>
      rw [not_or] at plain
      exact ⟨segment, rfl, plain.1, plain.2, (Option.some.inj (Except.ok.inj named)).symm⟩

/-- The node is a reference with one segment after the start of the named schemas. -/
structure IsDirect (source : Source) (node : Value) (segment : Text) : Prop where
  stands : ofValue? node = some (source.dialect.schemaStart ++ segment)
  filled : segment ≠ []
  single : '/' ∉ segment

theorem IsDirect.schemaFrom_eq {source : Source} {node : Value} {segment : Text}
    (direct : IsDirect source node segment) (pending : List Text) :
    schemaFrom source pending node =
      if Entries.contains (.str (unescape segment)) source.definitions then
        .ok (.reference .none (unescape segment))
      else .error (.failed (.unresolvable (source.dialect.schemaStart ++ segment) .absent)) := by
  have unslashed : ¬ (segment = [] ∨ '/' ∈ segment) := not_or.mpr ⟨direct.filled, direct.single⟩
  rw [schemaFrom, formOf_eq_reference_iff.mpr direct.stands]
  dsimp only
  rw [schemaName?_schemaStart, if_neg unslashed]

/-- What a reference leads to is imported in its place, unless it is a named schema. -/
theorem schemaFrom_of_unnamed {source : Source} {pending : List Text} {node found : Value}
    {reference : Text} (stands : ofValue? node = some reference)
    (unnamed : source.schemaName? reference = .ok none) (member : reference ∈ pending)
    (leads : target source.root reference = .ok found) :
    schemaFrom source pending node = schemaFrom source (pending.erase reference) found := by
  rw [schemaFrom, formOf_eq_reference_iff.mpr stands]
  dsimp only
  rw [unnamed]
  dsimp only
  rw [dif_pos member, leads]

/-- The node is imported as the other one is: what references lead to and the first branches of
compositions take the place of it. -/
inductive StandsFor (source : Source) : Value → Value → Prop where
  | here {node : Value} : StandsFor source node node
  | target {node found last : Value} {reference : Text} (stands : ofValue? node = some reference)
      (unnamed : source.schemaName? reference = .ok none)
      (leads : target source.root reference = .ok found) (rest : StandsFor source found last) :
      StandsFor source node last
  | branch {node inner last : Value} (formed : formOf node = .ok (.branch inner))
      (rest : StandsFor source inner last) : StandsFor source node last

/-- A node that is imported as a reference stands for a direct one to a named schema. -/
theorem exists_standsFor_of_schemaFrom {source : Source} {pending : List Text} {node : Value}
    {notes : Notes} {name : Text}
    (success : schemaFrom source pending node = .ok (.reference notes name)) :
    notes = .none ∧ ∃ last segment, StandsFor source node last ∧ IsDirect source last segment ∧
      name = unescape segment ∧ Entries.contains (.str name) source.definitions = true := by
  fun_induction schemaFrom source pending node with
  | case1 | case2 | case3 | case5 | case7 | case8 => cases success
  | case4 pending node reference formed found named contained =>
      cases success
      obtain ⟨segment, rfl, filled, single, rfl⟩ := exists_segment_of_schemaName? named
      exact ⟨rfl, node, segment, .here, ⟨formOf_eq_reference_iff.mp formed, filled, single⟩, rfl,
        contained⟩
  | case6 pending node reference formed unnamed member found leads ih =>
      obtain ⟨plain, last, segment, stands, rest⟩ := ih success
      exact ⟨plain, last, segment,
        .target (formOf_eq_reference_iff.mp formed) unnamed leads stands, rest⟩
  | case9 pending node inner formed ih =>
      obtain ⟨plain, last, segment, stands, rest⟩ := ih success
      exact ⟨plain, last, segment, .branch formed stands, rest⟩
  | case10 | case13 =>
      obtain ⟨checked, made⟩ := exists_of_noted success
      cases made
  | case11 =>
      obtain ⟨_, _, success⟩ := Success.of_bind success
      obtain ⟨checked, made⟩ := exists_of_noted success
      cases made
  | case12 =>
      obtain ⟨_, _, success⟩ := Success.of_bind success
      obtain ⟨_, _, success⟩ := Success.of_bind success
      obtain ⟨checked, made⟩ := exists_of_noted success
      cases made

/-! ## The two lookups -/

theorem contains_iff_exists_field? {name : Text} {entries : Entries} :
    Entries.contains (.str name) entries = true ↔
      ∃ value, Entries.field? name entries = some value := by
  rw [contains_eq_isSome, Option.isSome_iff_exists]
  rfl

/-- The pointer names the definition that the source has under the name. -/
def IsDefinedBy (source : Source) (reference name : Text) : Prop :=
  ∃ definition, target source.root reference = .ok definition ∧
    Entries.field? name source.definitions = some definition

/-- Looking a reference up by its name and following it as a pointer come to the same schema. -/
structure LookupsAgree (source : Source) : Prop where
  /-- Where a direct reference stays a reference, the pointer names the definition under its
  name. -/
  named : ∀ pending node segment notes name, IsDirect source node segment →
    schemaFrom source pending node = .ok (.reference notes name) →
    IsDefinedBy source (source.dialect.schemaStart ++ segment) name
  /-- Where the pointer of a direct reference names a value, the reference stays one, to the name of
  the key that was followed last, and the value is the definition under it. -/
  followed : ∀ pending node segment value, IsDirect source node segment →
    target source.root (source.dialect.schemaStart ++ segment) = .ok value →
    ∃ name, Reference.segments? (source.dialect.schemaStart ++ segment) =
        some (source.dialect.schemaWay ++ [name]) ∧
      schemaFrom source pending node = .ok (.reference .none name) ∧
      Entries.field? name source.definitions = some value
  /-- Where another reference becomes one to a named schema, its pointer names a value that stands
  for a direct reference, whose pointer names the definition under the name. -/
  through : ∀ pending node reference notes name, ofValue? node = some reference →
    (∀ segment, ¬ IsDirect source node segment) →
    schemaFrom source pending node = .ok (.reference notes name) →
    ∃ value last segment, target source.root reference = .ok value ∧ StandsFor source value last ∧
      IsDirect source last segment ∧
      IsDefinedBy source (source.dialect.schemaStart ++ segment) name

/-- In a document with a map of named schemas the two lookups agree. -/
theorem lookupsAgree_of_hasSchemaMap {document : Value} {definitions : Entries}
    (mapped : HasSchemaMap document definitions) :
    ∃ source, Source.ofDocument document = .ok source ∧ source.definitions = definitions ∧
      LookupsAgree source := by
  obtain ⟨source, opened, listed⟩ := exists_source_of_hasSchemaMap mapped
  have defined {last : Value} {segment : Text} (direct : IsDirect source last segment)
      (contained : Entries.contains (.str (unescape segment)) source.definitions = true) :
      IsDefinedBy source (source.dialect.schemaStart ++ segment) (unescape segment) := by
    obtain ⟨definition, found⟩ := contains_iff_exists_field?.mp contained
    exact ⟨definition, (target_schemaStart opened direct.single).mpr found, found⟩
  refine ⟨source, opened, listed, ⟨?_, ?_, ?_⟩⟩
  · intro pending node segment notes name direct success
    rw [direct.schemaFrom_eq] at success
    split at success
    · next contained =>
        cases success
        exact defined direct contained
    · cases success
  · intro pending node segment value direct leads
    have found := (target_schemaStart opened direct.single).mp leads
    refine ⟨unescape segment, segments?_schemaStart _ direct.single, ?_, found⟩
    rw [direct.schemaFrom_eq, if_pos (contains_iff_exists_field?.mpr ⟨value, found⟩)]
  · intro pending node reference notes name standing others success
    obtain ⟨_, last, segment, stands, direct, rfl, contained⟩ :=
      exists_standsFor_of_schemaFrom success
    cases stands with
    | here => exact absurd direct (others segment)
    | @target _ value _ _ again _ leads rest =>
        cases standing.symm.trans again
        exact ⟨value, last, segment, leads, rest, direct, defined direct contained⟩
    | branch formed =>
        cases (formOf_eq_reference_iff.mpr standing).symm.trans formed

/-- A keeper is what the owner of a pet is, and this is described by a reference. -/
def ownerDocument : Value :=
  .map [
    (.str "openapi", .str "3.0.0"),
    (.str "components", .map [(.str "schemas", .map [
      (.str "Owner", .map [(.str "type", .str "string")]),
      (.str "Pet", .map [(.str "properties", .map [
        (.str "owner", referenceTo "#/components/schemas/Owner")])]),
      (.str "Keeper", referenceTo "#/components/schemas/Pet/properties/owner")])])]

theorem lookupsAgree_of_ownerDocument :
    ∃ definitions, HasSchemaMap ownerDocument definitions ∧
      ∃ source, Source.ofDocument ownerDocument = .ok source ∧ source.definitions = definitions ∧
        LookupsAgree source := by
  have mapped : HasSchemaMap ownerDocument _ := .openApi (by decide) rfl rfl
  exact ⟨_, mapped, lookupsAgree_of_hasSchemaMap mapped⟩

/-- The reference of the keeper becomes one to the owner, but its pointer names the reference of the
pet and not the owner's definition. -/
theorem not_isDefinedBy_of_ownerDocument :
    ∃ source, Source.ofDocument ownerDocument = .ok source ∧
      source.dialect.schemaStart <+: "#/components/schemas/Pet/properties/owner".toList ∧
      schemaOf source (referenceTo "#/components/schemas/Pet/properties/owner") =
        .ok (.reference .none "Owner") ∧
      ¬ IsDefinedBy source "#/components/schemas/Pet/properties/owner" "Owner" := by
  obtain ⟨source, opened⟩ : ∃ source, Source.ofDocument ownerDocument = .ok source := ⟨_, rfl⟩
  refine ⟨source, opened, ?_⟩
  cases opened
  have leads : target ownerDocument "#/components/schemas/Pet/properties/owner" =
      .ok (referenceTo "#/components/schemas/Owner") := rfl
  refine ⟨by decide, ?_, ?_⟩
  · unfold schemaOf
    refine Eq.trans (schemaFrom_of_unnamed rfl (by decide +kernel) (by decide +kernel) leads) ?_
    have direct : ∀ source : Source, source.dialect = .openApi →
        IsDirect source (referenceTo "#/components/schemas/Owner") "Owner" :=
      fun source same => ⟨by rw [same]; decide, by decide, by decide⟩
    exact (direct _ rfl).schemaFrom_eq _
  · rintro ⟨definition, named, found⟩
    cases leads.symm.trans named
    cases found

end Import
end ApiForge
