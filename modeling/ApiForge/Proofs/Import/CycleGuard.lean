import ApiForge.Proofs.Import.SchemaLookups

/-!
# The guard against cycles

The converter of schemas replaces a reference that is no direct one by what it
leads to, unless it is replacing the same reference already: then nothing is
known about the value. So the guard fires inside the expansion of the same
reference only, and such a reference leads back to itself. In a named schema it
also fires on the pointer that is made of the name as it stands. For a name
without slashes no such pointer is ever replaced, but for a name with slashes it
may lead elsewhere. Where references lead back to themselves nowhere, and not to
that pointer, the converter does what it would do without a guard.
-/

namespace ApiForge.Import

open Reference (ofValue? referenceTo target unescape)

variable {source : Source}

/-! ## Converting without a guard -/

/-- The schema of a node, if at most `depth` calls of the converter are open at a time, where every
reference that is no direct one is replaced by what it leads to. -/
def plainWithin (source : Source) : Nat → Value → Attempt Schema
  | 0, _ => ExceptT.mk none
  | depth + 1, node => do
      match ← settled (formOf node) with
      | .shapeless => pure .unknown
      | .reference reference =>
          match source.schemaName? reference with
          | .error failure => throw (.failed failure)
          | .ok (some name) =>
              if Entries.contains (.str name) source.definitions then pure (.reference .none name)
              else throw (.failed (.unresolvable reference .absent))
          | .ok none =>
              match target source.root reference with
              | .ok found => plainWithin source depth found
              | .error failure => throw (.failed failure)
      | .branch inner => plainWithin source depth inner
      | .enumeration notes values => settled (noted notes (.enumeration · values))
      | .array notes items => do
          let items ← plainWithin source depth items
          settled (noted notes (.array · items))
      | .object notes properties required additional => do
          let imported ← properties.mapM fun (key, value) => do
            let schema ← plainWithin source depth value
            pure (key.display, schema)
          let inner ← additional.node?.mapM (plainWithin source depth)
          settled
            (noted notes (.object · (Keyed.ofList imported) required (additional.schema? inner)))
      | .primitive notes type => settled (noted notes (.primitive · type))

/-- The converter without a guard at a reference. -/
theorem plainWithin_of_reference {depth : Nat} {node : Value} {reference : Text}
    (formed : formOf node = .ok (.reference reference)) :
    plainWithin source (depth + 1) node =
      match source.schemaName? reference with
      | .error failure => throw (.failed failure)
      | .ok (some name) =>
          if Entries.contains (.str name) source.definitions then pure (.reference .none name)
          else throw (.failed (.unresolvable reference .absent))
      | .ok none =>
          match target source.root reference with
          | .ok found => plainWithin source depth found
          | .error failure => throw (.failed failure) := by
  rw [plainWithin, formed]
  rfl

/-- The named schemas, each of them without a guard. -/
def plainNamedWithin (source : Source) (depth : Nat) : Attempt (List (Text × Schema)) := do
  let imported ← source.definitions.mapM fun (key, node) => do
    let schema ← plainWithin source depth node
    pure (key.display, schema)
  pure (Keyed.ofList imported)

/-! ## Where the guard fires -/

/-- The node is a reference that is to be replaced by what it leads to. -/
structure IsReplaceable (source : Source) (node : Value) (reference : Text) : Prop where
  stands : ofValue? node = some reference
  unnamed : source.schemaName? reference = .ok none

/-- The guard fires at the call: the reference there is being replaced already. -/
def IsCutOff (source : Source) (visit : List Text × Value) (reference : Text) : Prop :=
  IsReplaceable source visit.2 reference ∧ reference ∈ visit.1

/-- The second call is for what the reference of the first one leads to. -/
inductive Replaces (source : Source) (reference : Text) :
    List Text × Value → List Text × Value → Prop where
  | intro {stack : List Text} {node found : Value} (replaced : IsReplaceable source node reference)
      (leads : target source.root reference = .ok found) :
      Replaces source reference (stack, node) (reference :: stack, found)

/-- On the way from the first call to the other one the reference is replaced. -/
def IsInExpansion (source : Source) (first : List Text × Value) (reference : Text)
    (visit : List Text × Value) : Prop :=
  ∃ outer inner, Relation.ReflTransGen (Calls source) first outer ∧ Calls source outer inner ∧
    Replaces source reference outer inner ∧ Relation.ReflTransGen (Calls source) inner visit

theorem IsInExpansion.tail {first visit next : List Text × Value} {reference : Text}
    (inside : IsInExpansion source first reference visit) (calls : Calls source visit next) :
    IsInExpansion source first reference next := by
  obtain ⟨outer, inner, before, call, replaces, after⟩ := inside
  exact ⟨outer, inner, before, call, replaces, after.tail calls⟩

theorem isSuffix_of_run {outer inner : List Text × Value}
    (run : Relation.ReflTransGen (Calls source) outer inner) : outer.1 <:+ inner.1 := by
  induction run with
  | refl => exact List.suffix_rfl
  | tail _ calls ih =>
      cases calls with
      | inside => exact ih
      | target => exact ih.trans (List.suffix_cons _ _)

/-- What is being replaced was so from the start, or the call is inside its expansion. -/
theorem mem_stack_iff {first visit : List Text × Value}
    (run : Relation.ReflTransGen (Calls source) first visit) {reference : Text} :
    reference ∈ visit.1 ↔ IsInExpansion source first reference visit ∨ reference ∈ first.1 := by
  constructor
  · intro inProgress
    induction run with
    | refl => exact .inr inProgress
    | tail run calls ih =>
        cases calls with
        | inside formed member =>
            exact (ih inProgress).imp_left fun inside => inside.tail (.inside formed member)
        | target formed unnamed fresh leads =>
            have call := Calls.target formed unnamed fresh leads
            rcases List.mem_cons.mp inProgress with rfl | before
            · have replaced := IsReplaceable.mk (formOf_eq_reference_iff.mp formed) unnamed
              exact .inl ⟨_, _, run, call, .intro replaced leads, .refl⟩
            · exact (ih before).imp_left fun inside => inside.tail call
  · rintro (⟨outer, inner, _, _, ⟨_, _⟩, after⟩ | fromStart)
    · exact (isSuffix_of_run after).subset List.mem_cons_self
    · exact (isSuffix_of_run run).subset fromStart

/-! ## References that lead back -/

/-- The conversion of the node meets the reference before it replaces any. -/
inductive Meets (source : Source) : Value → Text → Prop where
  | here {node : Value} {reference : Text} (replaced : IsReplaceable source node reference) :
      Meets source node reference
  | inside {node inner : Value} {form : SchemaForm} {reference : Text}
      (formed : formOf node = .ok form) (member : inner ∈ form.nodes)
      (met : Meets source inner reference) : Meets source node reference

/-- The conversion of what the first reference leads to meets the second one. -/
def LeadsTo (source : Source) (first second : Text) : Prop :=
  ∃ found, target source.root first = .ok found ∧ Meets source found second

/-- The reference is one of those that are replaced in the conversion of the node. -/
def IsInlinedFrom (source : Source) (node : Value) (reference : Text) : Prop :=
  ∃ first, Meets source node first ∧ Relation.ReflTransGen (LeadsTo source) first reference

/-- No reference that is replaced in the conversion of the node leads back to itself. -/
def NeverReturns (source : Source) (node : Value) : Prop :=
  ∀ reference, IsInlinedFrom source node reference →
    ¬ Relation.TransGen (LeadsTo source) reference reference

theorem Meets.mem_all {node : Value} {reference : Text} (met : Meets source node reference) :
    reference ∈ Reference.all node := by
  induction met with
  | here replaced => exact mem_all_of_ofValue? replaced.stands
  | inside formed member _ ih => exact mem_all_of_mem_nodes formed member ih

/-- What a call meets is replaced in the conversion, and what was replaced on the way to the call
leads to it. -/
theorem trail_of_run {stack : List Text} {node : Value} {visit : List Text × Value}
    (run : Relation.ReflTransGen (Calls source) (stack, node) visit) {reference : Text}
    (met : Meets source visit.2 reference) :
    IsInlinedFrom source node reference ∧
      ∀ earlier ∈ visit.1, earlier ∈ stack ∨
        Relation.TransGen (LeadsTo source) earlier reference := by
  induction run generalizing reference with
  | refl => exact ⟨⟨reference, met, .refl⟩, fun _ fromStart => .inl fromStart⟩
  | tail run calls ih =>
      cases calls with
      | inside formed member => exact ih (.inside formed member met)
      | @target _ _ found latest formed unnamed fresh leads =>
          have onward : LeadsTo source latest reference := ⟨found, leads, met⟩
          obtain ⟨⟨first, start, way⟩, before⟩ :=
            ih (.here ⟨formOf_eq_reference_iff.mp formed, unnamed⟩)
          refine ⟨⟨first, start, way.tail onward⟩, fun earlier inProgress => ?_⟩
          rcases List.mem_cons.mp inProgress with rfl | older
          · exact .inr (.single onward)
          · exact (before earlier older).imp_right fun back => back.tail onward

/-- A reference that is cut off was being replaced from the start, or it leads back to itself. -/
theorem returns_of_isCutOff {stack : List Text} {node : Value} {visit : List Text × Value}
    (run : Relation.ReflTransGen (Calls source) (stack, node) visit) {reference : Text}
    (cutOff : IsCutOff source visit reference) :
    IsInlinedFrom source node reference ∧
      (reference ∈ stack ∨ Relation.TransGen (LeadsTo source) reference reference) := by
  obtain ⟨inlined, before⟩ := trail_of_run run (.here cutOff.1)
  exact ⟨inlined, before reference cutOff.2⟩

/-! ## The two converters agree -/

theorem mapM_congr_on {α β : Type} {step other : α → Attempt β} {list : List α}
    (same : ∀ element ∈ list, step element = other element) : list.mapM step = list.mapM other := by
  induction list with
  | nil => rfl
  | cons first rest ih =>
      rw [List.mapM_cons, List.mapM_cons, same first List.mem_cons_self,
        ih fun element member => same element (List.mem_cons_of_mem _ member)]

/-- Where no call is cut off, the guard changes nothing. -/
theorem schemaWithin_eq_plainWithin {depth : Nat} {stack : List Text} {node : Value}
    (free : ∀ visit reference, Relation.ReflTransGen (Calls source) (stack, node) visit →
      ¬ IsCutOff source visit reference) :
    schemaWithin source depth stack node = plainWithin source depth node := by
  induction depth generalizing stack node with
  | zero => rfl
  | succ depth ih =>
      have inside {inner : Value} {form : SchemaForm} (formed : formOf node = .ok form)
          (member : inner ∈ form.nodes) :
          schemaWithin source depth stack inner = plainWithin source depth inner :=
        ih fun visit reference run => free visit reference (run.head (.inside formed member))
      cases formed : formOf node with
      | error abort =>
          rw [schemaWithin, plainWithin, formed]
          rfl
      | ok form =>
          cases form with
          | reference reference =>
              rw [schemaWithin_of_reference formed, plainWithin_of_reference formed]
              cases named : source.schemaName? reference with
              | error failure => rfl
              | ok name =>
                  cases name with
                  | some name => rfl
                  | none =>
                      have stands := formOf_eq_reference_iff.mp formed
                      have fresh : reference ∉ stack := fun inProgress =>
                        free _ reference .refl ⟨⟨stands, named⟩, inProgress⟩
                      simp only [if_neg (mt List.contains_iff_mem.mp fresh)]
                      cases leads : target source.root reference with
                      | error failure => rfl
                      | ok found =>
                          have call := Calls.target formed named fresh leads
                          exact ih fun visit reference run => free visit reference (run.head call)
          | branch inner =>
              rw [schemaWithin, plainWithin, formed]
              exact inside formed List.mem_cons_self
          | array notes items =>
              rw [schemaWithin, plainWithin, formed]
              change schemaWithin source depth stack items >>= _ = _
              rw [inside formed List.mem_cons_self]
              rfl
          | object notes properties required additional =>
              have ofProperty : ∀ entry ∈ properties,
                  schemaWithin source depth stack entry.2 = plainWithin source depth entry.2 :=
                fun entry member =>
                  inside formed (List.mem_append_left _ (List.mem_map_of_mem member))
              have ofAdditional : additional.node?.mapM (schemaWithin source depth stack) =
                  additional.node?.mapM (plainWithin source depth) := by
                cases held : additional.node? with
                | none => rfl
                | some inner =>
                    have member : inner ∈ additional.node?.toList := Option.mem_toList.mpr held
                    change _ <$> schemaWithin source depth stack inner = _
                    rw [inside formed (List.mem_append_right _ member)]
                    rfl
              rw [schemaWithin, plainWithin, formed]
              change List.mapM (m := Attempt) _ properties >>= _ =
                List.mapM (m := Attempt) _ properties >>= _
              rw [ofAdditional, mapM_congr_on]
              rintro ⟨key, value⟩ member
              change schemaWithin source depth stack value >>= _ = _
              rw [ofProperty _ member]
          | _ =>
              rw [schemaWithin, plainWithin, formed]
              rfl

/-- Where references lead back to themselves nowhere, and not to those that are being replaced from
the start, no call is cut off. -/
theorem not_isCutOff_of_neverReturns {stack : List Text} {node : Value}
    (neverReturns : NeverReturns source node)
    (others : ∀ reference ∈ stack, ¬ IsInlinedFrom source node reference)
    {visit : List Text × Value} {reference : Text}
    (run : Relation.ReflTransGen (Calls source) (stack, node) visit) :
    ¬ IsCutOff source visit reference := by
  intro cutOff
  obtain ⟨inlined, fromStart | back⟩ := returns_of_isCutOff run cutOff
  · exact others reference fromStart inlined
  · exact neverReturns reference inlined back

/-! ## The pointer made of a name -/

theorem Meets.unnamed {node : Value} {reference : Text} (met : Meets source node reference) :
    source.schemaName? reference = .ok none := by
  induction met with
  | here replaced => exact replaced.unnamed
  | inside _ _ _ ih => exact ih

theorem IsInlinedFrom.unnamed {node : Value} {reference : Text}
    (inlined : IsInlinedFrom source node reference) :
    source.schemaName? reference = .ok none := by
  obtain ⟨first, met, way⟩ := inlined
  cases way with
  | refl => exact met.unnamed
  | tail _ onward =>
      obtain ⟨found, _, met⟩ := onward
      exact met.unnamed

/-- The start of references to named schemas with the name as it stands, without escapes. -/
def ownPointer (source : Source) (name : Text) : Text :=
  source.dialect.schemaStart ++ name

/-- The pointer made of a name is replaced nowhere, but if the name has slashes or no letters. -/
theorem isSlashed_of_isInlinedFrom {node : Value} {name : Text}
    (inlined : IsInlinedFrom source node (ownPointer source name)) : name = [] ∨ '/' ∈ name := by
  have unnamed := inlined.unnamed
  rw [ownPointer, schemaName?_schemaStart] at unnamed
  by_contra plain
  rw [if_neg plain] at unnamed
  cases unnamed

/-- For a name without letters the pointer leads back to the named schema itself. -/
theorem returns_of_ownPointer_nil {document : Value}
    (opened : Source.ofDocument document = .ok source) {node : Value}
    (found : Entries.field? [] source.definitions = some node)
    (inlined : IsInlinedFrom source node (ownPointer source [])) :
    Relation.TransGen (LeadsTo source) (ownPointer source []) (ownPointer source []) := by
  have leads : target source.root (ownPointer source []) = .ok node :=
    (target_schemaStart opened List.not_mem_nil).mpr found
  obtain ⟨first, met, way⟩ := inlined
  exact .head' ⟨node, leads, met⟩ way

/-! ## The guard of an import -/

/-- Where the guard fires in the schemas of a source, and where it changes nothing. -/
structure GuardsCycles (source : Source) : Prop where
  /-- The converter with the guard comes to the import of a node. -/
  converts : ∀ depth node, IsWithin source.root node → limit source.root ≤ depth →
    schemaWithin source depth [] node = settled (schemaOf source node)
  /-- It comes to the import of the named schemas, each with the pointer made of its name. -/
  convertsNamed : ∀ depth, limit source.root ≤ depth →
    namedSchemasWithin source depth = settled (namedSchemas source)
  /-- Where the guard fires the schema is unknown. -/
  unknown : ∀ depth visit reference, IsCutOff source visit reference →
    schemaWithin source (depth + 1) visit.1 visit.2 = pure .unknown
  /-- Outside of named schemas it fires inside the expansion of the same reference, and nowhere
  else. -/
  guarded : ∀ node visit reference, Relation.ReflTransGen (Calls source) ([], node) visit →
    (IsCutOff source visit reference ↔
      IsReplaceable source visit.2 reference ∧ IsInExpansion source ([], node) reference visit)
  /-- There a reference at which it fires leads back to itself. -/
  returns : ∀ node visit reference, Relation.ReflTransGen (Calls source) ([], node) visit →
    IsCutOff source visit reference →
    IsInlinedFrom source node reference ∧
      Relation.TransGen (LeadsTo source) reference reference
  /-- So where none does, the import comes to what it would come to without the guard. -/
  plain : ∀ depth node, IsWithin source.root node → limit source.root ≤ depth →
    NeverReturns source node → plainWithin source depth node = settled (schemaOf source node)
  /-- In a named schema it also fires on the pointer made of the name. -/
  guardedNamed : ∀ name node visit reference,
    Relation.ReflTransGen (Calls source) ([ownPointer source name], node) visit →
    (IsCutOff source visit reference ↔ IsReplaceable source visit.2 reference ∧
      (IsInExpansion source ([ownPointer source name], node) reference visit ∨
        reference = ownPointer source name))
  /-- Other references at which it fires there lead back to themselves. -/
  returnsNamed : ∀ name node visit reference,
    Relation.ReflTransGen (Calls source) ([ownPointer source name], node) visit →
    IsCutOff source visit reference →
    IsInlinedFrom source node reference ∧ (reference = ownPointer source name ∨
      Relation.TransGen (LeadsTo source) reference reference)
  /-- The pointer made of a name is replaced only if the name has slashes or no letters. -/
  slashed : ∀ name node, IsInlinedFrom source node (ownPointer source name) →
    name = [] ∨ '/' ∈ name
  /-- Where it is replaced in the schema without letters in its name, it leads back to itself. -/
  nameless : ∀ node, Entries.field? [] source.definitions = some node →
    IsInlinedFrom source node (ownPointer source []) →
    Relation.TransGen (LeadsTo source) (ownPointer source []) (ownPointer source [])
  /-- So a named schema comes to what it would come to without the guard, if no reference in it
  leads back to itself and the pointer made of its name is not replaced in it. -/
  plainNamed : ∀ depth, ∀ entry ∈ source.definitions, limit source.root ≤ depth →
    NeverReturns source entry.2 →
    ¬ IsInlinedFrom source entry.2 (ownPointer source entry.1.display) →
    plainWithin source depth entry.2 =
      settled (schemaFrom source (source.references.erase (ownPointer source entry.1.display))
        entry.2)
  /-- And so do all of them, if that holds for each. -/
  plainSchemas : ∀ depth, limit source.root ≤ depth →
    (∀ entry ∈ source.definitions, NeverReturns source entry.2 ∧
      ¬ IsInlinedFrom source entry.2 (ownPointer source entry.1.display)) →
    plainNamedWithin source depth = settled (namedSchemas source)

theorem schemaWithin_eq_schemaOf {document : Value}
    (opened : Source.ofDocument document = .ok source) {depth : Nat} {node : Value}
    (within : IsWithin source.root node) (enough : limit source.root ≤ depth) :
    schemaWithin source depth [] node = settled (schemaOf source node) := by
  obtain ⟨rfl, references, _⟩ := isWithin_of_mem_definitions opened
  have lighter := weight_lt_limit within []
  exact schemaWithin_eq (by rw [references, remaining_nil]) within.covered
    (Nat.lt_of_lt_of_le lighter enough)

theorem schemaWithin_of_isCutOff {depth : Nat} {visit : List Text × Value} {reference : Text}
    (cutOff : IsCutOff source visit reference) :
    schemaWithin source (depth + 1) visit.1 visit.2 = pure .unknown := by
  obtain ⟨⟨stands, unnamed⟩, inProgress⟩ := cutOff
  rw [schemaWithin_of_reference (formOf_eq_reference_iff.mpr stands), unnamed]
  exact if_pos (List.contains_iff_mem.mpr inProgress)

/-- A named schema without the guard, where the guard changes nothing. -/
theorem plainWithin_of_mem_definitions {document : Value}
    (opened : Source.ofDocument document = .ok source) {depth : Nat} {entry : Scalar × Value}
    (member : entry ∈ source.definitions) (enough : limit source.root ≤ depth)
    (neverReturns : NeverReturns source entry.2)
    (other : ¬ IsInlinedFrom source entry.2 (ownPointer source entry.1.display)) :
    plainWithin source depth entry.2 =
      settled (schemaFrom source (source.references.erase (ownPointer source entry.1.display))
        entry.2) := by
  obtain ⟨rfl, references, within⟩ := isWithin_of_mem_definitions opened
  have inside := within entry member
  have lighter := weight_lt_limit inside [ownPointer source entry.1.display]
  have same : source.references.erase (ownPointer source entry.1.display) =
      Reference.remaining source.root [ownPointer source entry.1.display] := by
    rw [references, ← remaining_nil, Reference.remaining_erase]
  have converted := schemaWithin_eq same inside.covered (Nat.lt_of_lt_of_le lighter enough)
  rw [← converted]
  refine (schemaWithin_eq_plainWithin fun visit reference run => ?_).symm
  refine not_isCutOff_of_neverReturns neverReturns (fun started only => ?_) run
  rw [List.mem_singleton.mp only]
  exact other

theorem plainNamedWithin_eq {document : Value} (opened : Source.ofDocument document = .ok source)
    {depth : Nat} (enough : limit source.root ≤ depth)
    (free : ∀ entry ∈ source.definitions, NeverReturns source entry.2 ∧
      ¬ IsInlinedFrom source entry.2 (ownPointer source entry.1.display)) :
    plainNamedWithin source depth = settled (namedSchemas source) := by
  have converted : ∀ entry ∈ source.definitions,
      (do
        let schema ← plainWithin source depth entry.2
        pure (entry.1.display, schema) : Attempt (Text × Schema)) =
      settled (do
        let schema ← schemaFrom source
          (source.references.erase (ownPointer source entry.1.display)) entry.2
        pure (entry.1.display, schema)) := by
    intro entry member
    obtain ⟨neverReturns, other⟩ := free entry member
    rw [plainWithin_of_mem_definitions opened member enough neverReturns other]
    exact settled_bind fun _ => rfl
  unfold plainNamedWithin namedSchemas
  rw [mapM_settled converted]
  exact settled_bind fun _ => rfl

/-- The guard of an import fires inside the expansion of the same reference, and in a named schema
on the pointer made of its name. -/
theorem guardsCycles_of_ofDocument {document : Value}
    (opened : Source.ofDocument document = .ok source) : GuardsCycles source where
  unknown _ _ _ := schemaWithin_of_isCutOff
  guarded node visit reference run := by
    simp [IsCutOff, mem_stack_iff run]
  returns node visit reference run cutOff := by
    simpa using returns_of_isCutOff run cutOff
  converts _ _ := schemaWithin_eq_schemaOf opened
  convertsNamed _ := namedSchemasWithin_eq opened
  plain depth node within enough neverReturns := by
    rw [← schemaWithin_eq_schemaOf opened within enough]
    refine (schemaWithin_eq_plainWithin fun visit reference run => ?_).symm
    exact not_isCutOff_of_neverReturns neverReturns (by simp) run
  guardedNamed name node visit reference run := by
    simp [IsCutOff, mem_stack_iff run]
  returnsNamed name node visit reference run cutOff := by
    simpa using returns_of_isCutOff run cutOff
  slashed _ _ := isSlashed_of_isInlinedFrom
  nameless _ := returns_of_ownPointer_nil opened
  plainNamed _ _ member := plainWithin_of_mem_definitions opened member
  plainSchemas _ := plainNamedWithin_eq opened

/-- The reference to the name of a pet. -/
def petName : Text :=
  "#/components/schemas/Pet/properties/name"

def petNameList : Value :=
  .map [(.str "items", referenceTo petName)]

/-- A pet with a name, and a list of such names. -/
def petNamesDocument (list : Text) : Value :=
  .map [
    (.str "openapi", .str "3.0.0"),
    (.str "components", .map [(.str "schemas", .map [
      (.str "Pet", .map [(.str "properties", .map [
        (.str "name", .map [(.str "type", .str "string")])])]),
      (.str list, petNameList)])])]

theorem neverReturns_petNamesDocument {list : Text}
    (opened : Source.ofDocument (petNamesDocument list) = .ok source)
    (only : Reference.all (petNamesDocument list) = [petName]) :
    ∀ entry ∈ source.definitions, NeverReturns source entry.2 := by
  obtain ⟨root, _, within⟩ := isWithin_of_mem_definitions opened
  have last : ∀ next, ¬ LeadsTo source petName next := by
    rintro next ⟨found, leads, met⟩
    rw [← root] at leads
    cases leads
    cases met.mem_all
  rintro entry member reference ⟨first, met, way⟩
  have inDocument := (within entry member).covered first met.mem_all
  rw [← root, only] at inDocument
  cases List.mem_singleton.mp inDocument
  exact Reference.not_transGen_of_last last way

/-- The schemas of the pet and of the list, whose items have a schema of their own. -/
def petSchemas (list : Text) (items : Schema) : List (Text × Schema) :=
  [("Pet", .object .none [("name", .primitive .none .string)] [] none),
    (list, .array .none items)]

/-- The list holds texts, if its name has no slashes. -/
theorem guardsCycles_of_petNamesDocument :
    ∃ source, Source.ofDocument (petNamesDocument "Names") = .ok source ∧ GuardsCycles source ∧
      namedSchemas source = .ok (petSchemas "Names" (.primitive .none .string)) := by
  obtain ⟨source, opened⟩ : ∃ source, Source.ofDocument (petNamesDocument "Names") = .ok source :=
    ⟨_, rfl⟩
  have guards := guardsCycles_of_ofDocument opened
  refine ⟨source, opened, guards, ?_⟩
  have plainNames : ∀ entry ∈ source.definitions,
      entry.1.display ≠ [] ∧ '/' ∉ entry.1.display := by
    cases opened
    decide +kernel
  have settles := guards.plainSchemas _ (Nat.le_refl _) fun entry member =>
    ⟨neverReturns_petNamesDocument opened (by decide +kernel) entry member, fun inlined =>
      (guards.slashed _ _ inlined).elim (plainNames entry member).1 (plainNames entry member).2⟩
  cases opened
  exact settled_inj (settles.symm.trans (by with_unfolding_all rfl))

/-- With the name `Pet/properties/name` it holds unknown values, though no reference leads back to
itself and the list would hold texts without the guard. The guard fires on the reference of the
list, inside no expansion. -/
theorem not_plain_of_petNamesDocument :
    ∃ source api, Source.ofDocument (petNamesDocument "Pet/properties/name") = .ok source ∧
      apiOf (petNamesDocument "Pet/properties/name") none = .ok api ∧
      (∀ entry ∈ source.definitions, NeverReturns source entry.2) ∧
      plainNamedWithin source (limit source.root) =
        settled (.ok (petSchemas "Pet/properties/name" (.primitive .none .string))) ∧
      api.schemas = petSchemas "Pet/properties/name" .unknown ∧
      ownPointer source "Pet/properties/name" = petName ∧
      Relation.ReflTransGen (Calls source) ([petName], petNameList)
        ([petName], referenceTo petName) ∧
      IsCutOff source ([petName], referenceTo petName) petName ∧
      ¬ IsInExpansion source ([petName], petNameList) petName ([petName], referenceTo petName) := by
  have imported : (apiOf (petNamesDocument "Pet/properties/name") none).toOption.isSome = true := by
    decide +kernel
  obtain ⟨api, made⟩ := Option.isSome_iff_exists.mp imported
  replace made := Success.of_toOption made
  obtain ⟨source, opened, named, _⟩ := parts_of_apiOf made
  have neverReturns := neverReturns_petNamesDocument opened (by decide +kernel)
  have settles := namedSchemasWithin_eq opened (Nat.le_refl _)
  rw [named] at settles
  cases opened
  have known : Except.ok api.schemas = .ok (petSchemas "Pet/properties/name" .unknown) :=
    settled_inj (settles.symm.trans (by with_unfolding_all rfl))
  refine ⟨_, api, rfl, made, neverReturns, by with_unfolding_all rfl, Except.ok.inj known,
    by decide +kernel, .single ?_, ⟨⟨rfl, by decide +kernel⟩, List.mem_singleton.mpr rfl⟩, ?_⟩
  · have formed : formOf petNameList =
        .ok (.array ⟨.null, .null, false⟩ (referenceTo petName)) := by
      with_unfolding_all rfl
    exact .inside formed List.mem_cons_self
  · -- The reference is on the stack from the start, so it is replaced on no way there.
    rintro ⟨_, _, before, _, ⟨_, _⟩, after⟩
    have fewer := (isSuffix_of_run after).length_le
    have more := (isSuffix_of_run before).length_le
    simp only [List.length_cons, List.length_nil] at fewer more
    omega

end ApiForge.Import
