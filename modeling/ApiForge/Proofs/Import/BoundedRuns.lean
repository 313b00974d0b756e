import ApiForge.Proofs.Reference.Expansion
import Mathlib.Data.List.Basic

/-!
# Ends of imports

The converter of schemas calls itself at the nodes inside a form and at what a
reference leads to, which may be higher than the node with the reference. What
gets less with every call is a weight: a value as high as the document for each
reference that may still be replaced, and the node. So a converter that is given
a depth, and keeps the references that are being replaced on a stack, comes to
the result of the import as soon as the depth is above the weight. The same goes
for the steps in which references are followed.
-/

namespace ApiForge

open Reference (all remaining)


namespace Value

theorem height_le_of_inner? {value inner : Value} {place : Place}
    (there : value.inner? place = some inner) : inner.height ≤ value.height := by
  induction place generalizing value with
  | nil =>
      cases there
      exact Nat.le_refl _
  | cons position rest ih =>
      obtain ⟨next, child, there⟩ := Option.bind_eq_some_iff.mp there
      exact Nat.le_trans (ih there) (Nat.le_of_lt (height_lt_of_child? child))

end Value

namespace Import

/-! ## References inside nodes -/

theorem mem_all_of_mem_entries {entry : Scalar × Value} {entries : Entries} {reference : Text}
    (inEntries : entry ∈ entries) (member : reference ∈ all entry.2) :
    reference ∈ all (.map entries) :=
  List.mem_append_right _ (Reference.mem_allOfEntries.mpr ⟨entry, inEntries, member⟩)

theorem mem_all_of_field? {name reference : Text} {entries : Entries} {value : Value}
    (found : Entries.field? name entries = some value) (member : reference ∈ all value) :
    reference ∈ all (.map entries) :=
  mem_all_of_mem_entries (Entries.mem_of_field? found) member

theorem mem_all_of_firstBranch? {entries : Entries} {branch : Value} {reference : Text}
    (found : firstBranch? entries = some branch) (member : reference ∈ all branch) :
    reference ∈ all (.map entries) := by
  obtain ⟨keyword, _, held⟩ := List.exists_of_findSome?_eq_some found
  split at held
  · next first rest value =>
      cases held
      exact mem_all_of_field? value
        (Reference.mem_allOfItems.mpr ⟨branch, List.mem_cons_self, member⟩)
  · cases held

theorem mem_all_of_fieldOrNull {name reference : Text} {entries : Entries}
    (member : reference ∈ all (Value.fieldOrNull name entries)) :
    reference ∈ all (.map entries) := by
  unfold Value.fieldOrNull at member
  cases found : Entries.field? name entries with
  | none =>
      rw [found] at member
      cases member
  | some value =>
      rw [found] at member
      exact mem_all_of_field? found member

theorem mem_all_of_additionalOf {entries : Entries} {node : Value} {reference : Text}
    (found : (additionalOf entries).node? = some node) (member : reference ∈ all node) :
    reference ∈ all (.map entries) := by
  unfold additionalOf at found
  split at found
  · cases found
  · next inner value =>
      cases found
      exact mem_all_of_field? value member
  · cases found

/-- The entries under a key are those of the mapping there, or there are none. -/
theorem fieldEntries_cases {name : Text} {entries inner : Entries}
    (found : Value.fieldEntries name entries = .ok inner) :
    inner = [] ∨ Entries.field? name entries = some (.map inner) := by
  have held := Success.of_foreseen found
  unfold Value.fieldOr at held
  split at held
  · next value known =>
      split at held
      · cases value with
        | map _ =>
            cases held
            exact .inr known
        | _ => cases held
      · exact .inl (Option.some.inj held).symm
  · exact .inl (Option.some.inj held).symm

/-- What a node that is neither a reference nor a composition says. -/
theorem plainForm_cases {entries : Entries} {form : SchemaForm}
    (formed : plainForm entries = .ok form) :
    (∃ notes values, form = .enumeration notes values) ∨
      (∃ notes, form = .array notes (Value.fieldOrNull "items" entries)) ∨
      (∃ notes properties required, Value.fieldEntries "properties" entries = .ok properties ∧
        form = .object notes properties required (additionalOf entries)) ∨
      ∃ notes type, form = .primitive notes type := by
  unfold plainForm primitiveForm at formed
  dsimp only at formed
  split at formed
  · obtain ⟨texts, _, made⟩ := Success.of_bind formed
    exact .inl ⟨_, _, (Except.ok.inj made).symm⟩
  · split at formed
    · exact .inr (.inl ⟨_, (Except.ok.inj formed).symm⟩)
    · split at formed
      · obtain ⟨properties, found, made⟩ := Success.of_bind formed
        exact .inr (.inr (.inl ⟨_, properties, _, found, (Except.ok.inj made).symm⟩))
      · refine .inr (.inr (.inr ?_))
        have made := (Except.ok.inj formed).symm
        split at made
        · exact ⟨_, _, made⟩
        · split at made
          · exact ⟨_, _, made⟩
          · exact ⟨_, _, made⟩

/-- A node inside a form has no references but those of the node with the form. -/
theorem mem_all_of_mem_nodes {node inner : Value} {form : SchemaForm}
    (formed : formOf node = .ok form) (member : inner ∈ form.nodes) {reference : Text}
    (inside : reference ∈ all inner) : reference ∈ all node := by
  cases node with
  | map entries =>
      simp only [formOf] at formed
      split at formed
      · cases formed
        cases member
      · split at formed
        · next branch found =>
            cases formed
            rw [List.mem_singleton.mp member] at inside
            exact mem_all_of_firstBranch? found inside
        · obtain ⟨_, _, rfl⟩ | ⟨_, rfl⟩ | ⟨_, properties, _, found, rfl⟩ | ⟨_, _, rfl⟩ :=
            plainForm_cases formed
          · cases member
          · rw [List.mem_singleton.mp member] at inside
            exact mem_all_of_fieldOrNull inside
          · rcases List.mem_append.mp member with inProperties | inAdditional
            · obtain ⟨entry, inEntries, rfl⟩ := List.mem_map.mp inProperties
              rcases fieldEntries_cases found with rfl | known
              · cases inEntries
              · exact mem_all_of_field? known (mem_all_of_mem_entries inEntries inside)
            · exact mem_all_of_additionalOf (Option.mem_toList.mp inAdditional) inside
          · cases member
  | _ =>
      cases formed
      cases member

theorem mem_all_of_formOf {node : Value} {reference : Text}
    (formed : formOf node = .ok (.reference reference)) : reference ∈ all node := by
  cases node with
  | map entries =>
      simp only [formOf] at formed
      split at formed
      · next stands =>
          cases formed
          exact Reference.mem_all_of_ofEntries? stands
      · split at formed
        · cases formed
        · rcases plainForm_cases formed with ⟨_, _, same⟩ | ⟨_, same⟩ | ⟨_, _, _, _, same⟩ |
            ⟨_, _, same⟩
          all_goals cases same
  | _ => cases formed

/-! ## Attempts -/

/-- What a computation of bounded depth comes to: nothing, if the depth does not suffice. -/
abbrev Attempt := ExceptT Abort Option

/-- The attempt that comes to this end. -/
def settled {α : Type} (result : Except Abort α) : Attempt α :=
  ExceptT.mk (some result)

variable {α β : Type}

theorem settled_inj {first second : Except Abort α} (same : settled first = settled second) :
    first = second :=
  Option.some.inj same

theorem settled_bind {result : Except Abort α} {next : α → Attempt β} {after : α → Except Abort β}
    (settles : ∀ value, next value = settled (after value)) :
    settled result >>= next = settled (result >>= after) := by
  cases result with
  | error abort => rfl
  | ok value => exact settles value

/-- A traversal comes to an end if it does at every element. -/
theorem mapM_settled {step : α → Attempt β} {list : List α} {result : α → Except Abort β}
    (settles : ∀ element ∈ list, step element = settled (result element)) :
    list.mapM step = settled (list.mapM result) := by
  induction list with
  | nil => rfl
  | cons first rest ih =>
      rw [List.mapM_cons, List.mapM_cons, settles first List.mem_cons_self]
      refine settled_bind fun value => ?_
      rw [ih fun element member => settles element (List.mem_cons_of_mem _ member)]
      exact settled_bind fun _ => rfl

theorem mapM_settled_attach {step : α → Attempt β} {list : List α}
    {result : { element // element ∈ list } → Except Abort β}
    (settles : ∀ element, step element.1 = settled (result element)) :
    list.mapM step = settled (list.attach.mapM result) := by
  rw [← mapM_settled fun element _ => settles element]
  conv => lhs; rw [← List.attach_map_subtype_val list]
  exact List.mapM_map

theorem optionMapM_settled_attach {step : α → Attempt β} {value : Option α}
    {result : { element // value = some element } → Except Abort β}
    (settles : ∀ element, step element.1 = settled (result element)) :
    value.mapM step = settled (value.attach.mapM result) := by
  cases value with
  | none => rfl
  | some element =>
      change step element >>= _ = _
      rw [settles ⟨element, rfl⟩]
      exact settled_bind fun _ => rfl

/-- The schema of a node, if at most `depth` calls of the converter are open at a time; `stack` are
the references that are being replaced, the latest first. -/
def schemaWithin (source : Source) : Nat → List Text → Value → Attempt Schema
  | 0, _, _ => ExceptT.mk none
  | depth + 1, stack, node => do
      match ← settled (formOf node) with
      | .shapeless => pure .unknown
      | .reference reference =>
          match source.schemaName? reference with
          | .error failure => throw (.failed failure)
          | .ok (some name) =>
              if Entries.contains (.str name) source.definitions then pure (.reference .none name)
              else throw (.failed (.unresolvable reference .absent))
          | .ok none =>
              if stack.contains reference then pure .unknown
              else
                match Reference.target source.root reference with
                | .ok found => schemaWithin source depth (reference :: stack) found
                | .error failure => throw (.failed failure)
      | .branch inner => schemaWithin source depth stack inner
      | .enumeration notes values => settled (noted notes (.enumeration · values))
      | .array notes items => do
          let items ← schemaWithin source depth stack items
          settled (noted notes (.array · items))
      | .object notes properties required additional => do
          let imported ← properties.mapM fun (key, value) => do
            let schema ← schemaWithin source depth stack value
            pure (key.display, schema)
          let inner ← additional.node?.mapM (schemaWithin source depth stack)
          settled
            (noted notes (.object · (Keyed.ofList imported) required (additional.schema? inner)))
      | .primitive notes type => settled (noted notes (.primitive · type))

/-- How much there is to convert at most: for every reference that may still be replaced a value as
high as the document, and the node. -/
def weight (root : Value) (stack : List Text) (node : Value) : Nat :=
  (remaining root stack).length * (root.height + 1) + node.height

theorem weight_inner_lt {root : Value} {stack : List Text} {node inner : Value} {form : SchemaForm}
    (formed : formOf node = .ok form) (member : inner ∈ form.nodes) :
    weight root stack inner < weight root stack node :=
  Nat.add_lt_add_left (height_lt_of_formOf formed member) _

theorem length_remaining {root : Value} {stack : List Text} {reference : Text}
    (inDocument : reference ∈ all root) (fresh : reference ∉ stack) :
    (remaining root stack).length = (remaining root (reference :: stack)).length + 1 := by
  have member : reference ∈ remaining root stack := Reference.mem_remaining.mpr ⟨inDocument, fresh⟩
  have positive := List.length_pos_of_mem member
  rw [← Reference.remaining_erase, List.length_erase_of_mem member]
  omega

/-- What a reference leads to may be higher than the node with the reference, but not higher than
the document. -/
theorem weight_target_lt {root : Value} {stack : List Text} {found : Value} {reference : Text}
    (node : Value) (inDocument : reference ∈ all root) (fresh : reference ∉ stack)
    (leads : Reference.target root reference = .ok found) :
    weight root (reference :: stack) found < weight root stack node := by
  obtain ⟨place, there⟩ := Reference.exists_inner?_of_target leads
  have lower := Value.height_le_of_inner? there
  unfold weight
  rw [length_remaining inDocument fresh, Nat.succ_mul]
  omega

/-- The value has no references but those of the document. -/
def IsCovered (root value : Value) : Prop :=
  ∀ reference ∈ all value, reference ∈ all root

theorem isCovered_of_target {root found : Value} {reference : Text}
    (leads : Reference.target root reference = .ok found) : IsCovered root found := by
  obtain ⟨place, there⟩ := Reference.exists_inner?_of_target leads
  exact fun _ member => Reference.mem_all_of_inner? there member

/-- The converter at a reference. -/
theorem schemaWithin_of_reference {source : Source} {depth : Nat} {stack : List Text} {node : Value}
    {reference : Text} (formed : formOf node = .ok (.reference reference)) :
    schemaWithin source (depth + 1) stack node =
      match source.schemaName? reference with
      | .error failure => throw (.failed failure)
      | .ok (some name) =>
          if Entries.contains (.str name) source.definitions then pure (.reference .none name)
          else throw (.failed (.unresolvable reference .absent))
      | .ok none =>
          if stack.contains reference then pure .unknown
          else
            match Reference.target source.root reference with
            | .ok found => schemaWithin source depth (reference :: stack) found
            | .error failure => throw (.failed failure) := by
  rw [schemaWithin, formed]
  rfl

/-- A depth above the weight suffices, and the converter comes to the schema of the node. -/
theorem schemaWithin_eq {source : Source} {pending : List Text} {node : Value} {depth : Nat}
    {stack : List Text} (same : pending = remaining source.root stack)
    (covered : IsCovered source.root node) (enough : weight source.root stack node < depth) :
    schemaWithin source depth stack node = settled (schemaFrom source pending node) := by
  have inside {depth : Nat} {stack : List Text} {node inner : Value} {form : SchemaForm}
      (covered : IsCovered source.root node) (enough : weight source.root stack node < depth + 1)
      (formed : formOf node = .ok form) (member : inner ∈ form.nodes) :
      IsCovered source.root inner ∧ weight source.root stack inner < depth := by
    have lighter := @weight_inner_lt source.root stack _ _ _ formed member
    exact ⟨fun _ held => covered _ (mem_all_of_mem_nodes formed member held), by omega⟩
  fun_induction schemaFrom source pending node generalizing depth stack
  all_goals obtain ⟨depth, rfl⟩ := Nat.exists_eq_add_one_of_ne_zero (Nat.ne_zero_of_lt enough)
  case case1 formed | case2 formed | case10 formed | case13 formed =>
    rw [schemaWithin, formed]
    rfl
  case case3 formed failure refused =>
    rw [schemaWithin_of_reference formed, refused]
    rfl
  case case4 formed name named contained =>
    rw [schemaWithin_of_reference formed, named]
    exact if_pos contained
  case case5 formed name named absent =>
    rw [schemaWithin_of_reference formed, named]
    exact if_neg absent
  case case6 pending node reference formed unnamed member found leads ih =>
    obtain ⟨inDocument, fresh⟩ := Reference.mem_remaining.mp (same ▸ member)
    have lighter := weight_target_lt node inDocument fresh leads
    rw [schemaWithin_of_reference formed, unnamed]
    simp only [if_neg (mt List.contains_iff_mem.mp fresh), leads]
    exact ih (by rw [same, Reference.remaining_erase]) (isCovered_of_target leads) (by omega)
  case case7 pending node reference formed unnamed member failure lost =>
    obtain ⟨_, fresh⟩ := Reference.mem_remaining.mp (same ▸ member)
    rw [schemaWithin_of_reference formed, unnamed]
    simp only [if_neg (mt List.contains_iff_mem.mp fresh), lost]
    rfl
  case case8 pending node reference formed unnamed replaced =>
    have inDocument := covered reference (mem_all_of_formOf formed)
    have inProgress : reference ∈ stack := by
      by_contra fresh
      exact replaced (same ▸ Reference.mem_remaining.mpr ⟨inDocument, fresh⟩)
    rw [schemaWithin_of_reference formed, unnamed]
    exact if_pos (List.contains_iff_mem.mpr inProgress)
  case case9 pending node inner formed ih =>
    obtain ⟨covered, enough⟩ := inside covered enough formed List.mem_cons_self
    rw [schemaWithin, formed]
    exact ih same covered enough
  case case11 pending node notes items formed ih =>
    obtain ⟨covered, enough⟩ := inside covered enough formed List.mem_cons_self
    rw [schemaWithin, formed]
    change schemaWithin source depth stack items >>= _ = _
    rw [ih same covered enough]
    exact settled_bind fun _ => rfl
  case case12 pending node notes properties required additional formed ofProperty ofAdditional =>
    rw [schemaWithin, formed]
    change List.mapM (m := Attempt) _ properties >>= _ = _
    rw [mapM_settled_attach]
    · refine settled_bind fun imported => ?_
      rw [optionMapM_settled_attach]
      · exact settled_bind fun _ => rfl
      · rintro ⟨inner, node⟩
        obtain ⟨covered, enough⟩ := inside covered enough formed
          (List.mem_append_right _ (Option.mem_toList.mpr node))
        exact ofAdditional inner node same covered enough
    · rintro ⟨⟨key, value⟩, member⟩
      obtain ⟨covered, enough⟩ := inside covered enough formed
        (List.mem_append_left _ (List.mem_map_of_mem member))
      change schemaWithin source depth stack value >>= _ = _
      rw [ofProperty key value member same covered enough]
      exact settled_bind fun _ => rfl

/-- What references lead to, if that is known after at most `steps` values; `seen` are the
references that were followed, the latest first. -/
def followWithin (root : Value) : Nat → List Text → Value → Option (Except Failure Value)
  | 0, _, _ => none
  | steps + 1, seen, value =>
      match Reference.ofValue? value with
      | none => some (.ok value)
      | some reference =>
          if seen.contains reference then some (.error (.unresolvable reference .circular))
          else
            match Reference.target root reference with
            | .ok found => followWithin root steps (reference :: seen) found
            | .error failure => some (.error failure)

theorem mem_all_of_ofValue? {value : Value} {reference : Text}
    (stands : Reference.ofValue? value = some reference) : reference ∈ all value := by
  cases value with
  | map entries => exact Reference.mem_all_of_ofEntries? stands
  | _ => cases stands

/-- As many steps as references are left, and one more, suffice. -/
theorem followWithin_eq {root : Value} {pending : List Text} {value : Value} {steps : Nat}
    {seen : List Text} (same : pending = remaining root seen) (covered : IsCovered root value)
    (enough : pending.length < steps) :
    followWithin root steps seen value = some (Reference.followFrom root pending value) := by
  fun_induction Reference.followFrom root pending value generalizing steps seen
  all_goals obtain ⟨steps, rfl⟩ := Nat.exists_eq_add_one_of_ne_zero (Nat.ne_zero_of_lt enough)
  case case1 value plain =>
    simp only [followWithin, plain]
  case case2 pending value reference stands member found leads ih =>
    obtain ⟨inDocument, fresh⟩ := Reference.mem_remaining.mp (same ▸ member)
    have fewer := Reference.length_erase_lt member
    simp only [followWithin, stands, if_neg (mt List.contains_iff_mem.mp fresh), leads]
    exact ih (by rw [same, Reference.remaining_erase]) (isCovered_of_target leads) (by omega)
  case case3 pending value reference stands member failure lost =>
    obtain ⟨_, fresh⟩ := Reference.mem_remaining.mp (same ▸ member)
    simp only [followWithin, stands, if_neg (mt List.contains_iff_mem.mp fresh), lost]
  case case4 pending value reference stands absent =>
    have inDocument := covered reference (mem_all_of_ofValue? stands)
    have followed : reference ∈ seen := by
      by_contra fresh
      exact absent (same ▸ Reference.mem_remaining.mpr ⟨inDocument, fresh⟩)
    simp only [followWithin, stands, if_pos (List.contains_iff_mem.mpr followed)]

/-! ## Documents -/

/-- The value has no references but those of the document, and it is not higher. -/
structure IsWithin (root value : Value) : Prop where
  covered : IsCovered root value
  height_le : value.height ≤ root.height

theorem isWithin_root (root : Value) : IsWithin root root :=
  ⟨fun _ member => member, Nat.le_refl _⟩

theorem IsWithin.of_mem_entries {root : Value} {entries : Entries} {entry : Scalar × Value}
    (within : IsWithin root (.map entries)) (member : entry ∈ entries) :
    IsWithin root entry.2 := by
  have lower := @Value.height_le_of_mem_entries entry.1 _ _ member
  have whole := within.height_le
  rw [Value.height] at whole
  exact ⟨fun _ held => within.covered _ (mem_all_of_mem_entries member held), by omega⟩

theorem isWithin_of_fieldEntries {root : Value} {name : Text} {entries inner : Entries}
    (within : ∀ entry ∈ entries, IsWithin root entry.2)
    (found : Value.fieldEntries name entries = .ok inner) :
    ∀ entry ∈ inner, IsWithin root entry.2 := by
  rcases fieldEntries_cases found with rfl | known
  · exact fun _ none => nomatch none
  · have mapping := within _ (Entries.mem_of_field? known)
    exact fun _ member => mapping.of_mem_entries member

/-- The named schemas of a document stand within it. -/
theorem isWithin_of_mem_definitions {document : Value} {source : Source}
    (made : Source.ofDocument document = .ok source) :
    document = source.root ∧ source.references = Reference.distinctIn document ∧
      ∀ entry ∈ source.definitions, IsWithin source.root entry.2 := by
  obtain ⟨entries, held, made⟩ := Success.of_bind made
  obtain ⟨definitions, found, made⟩ := Success.of_bind made
  cases made
  have same : document = .map entries := by
    cases document with
    | map _ => cases held; rfl
    | _ => cases held
  refine ⟨same, rfl, ?_⟩
  have within : ∀ entry ∈ entries, IsWithin (.map entries) entry.2 :=
    fun _ member => (isWithin_root _).of_mem_entries member
  unfold Dialect.definitions at found
  split at found
  · exact isWithin_of_fieldEntries within found
  · obtain ⟨components, known, found⟩ := Success.of_bind found
    exact isWithin_of_fieldEntries (isWithin_of_fieldEntries within known) found

/-- A depth that suffices everywhere in a document. -/
def limit (root : Value) : Nat :=
  ((Reference.distinctIn root).length + 1) * (root.height + 1)

theorem weight_lt_limit {root node : Value} (within : IsWithin root node) (stack : List Text) :
    weight root stack node < limit root := by
  have fewer : (remaining root stack).length ≤ (Reference.distinctIn root).length :=
    List.length_filter_le ..
  have product := Nat.mul_le_mul_right (root.height + 1) fewer
  have lower := within.height_le
  unfold weight limit
  rw [Nat.succ_mul]
  omega

/-- The named schemas, if the depth suffices for each of them. Inside a named schema the reference
to it is being replaced. -/
def namedSchemasWithin (source : Source) (depth : Nat) : Attempt (List (Text × Schema)) := do
  let imported ← source.definitions.mapM fun (key, node) => do
    let name := key.display
    let schema ← schemaWithin source depth [source.dialect.schemaStart ++ name] node
    pure (name, schema)
  pure (Keyed.ofList imported)

/-- The converter calls itself, each time at a node and with the references that are being
replaced. -/
inductive Calls (source : Source) : List Text × Value → List Text × Value → Prop where
  | inside {stack : List Text} {node inner : Value} {form : SchemaForm}
      (formed : formOf node = .ok form) (member : inner ∈ form.nodes) :
      Calls source (stack, node) (stack, inner)
  | target {stack : List Text} {node found : Value} {reference : Text}
      (formed : formOf node = .ok (.reference reference))
      (unnamed : source.schemaName? reference = .ok none) (fresh : reference ∉ stack)
      (leads : Reference.target source.root reference = .ok found) :
      Calls source (stack, node) (reference :: stack, found)

/-- Every call has less to convert, also where the node is higher than the one before. -/
theorem weight_lt_of_calls {source : Source} {outer inner : List Text × Value}
    (calls : Calls source outer inner) (covered : IsCovered source.root outer.2) :
    IsCovered source.root inner.2 ∧
      weight source.root inner.1 inner.2 < weight source.root outer.1 outer.2 := by
  cases calls with
  | inside formed member =>
      exact ⟨fun _ held => covered _ (mem_all_of_mem_nodes formed member held),
        weight_inner_lt formed member⟩
  | target formed unnamed fresh leads =>
      exact ⟨isCovered_of_target leads,
        weight_target_lt _ (covered _ (mem_all_of_formOf formed)) fresh leads⟩

theorem acc_of_isCovered {source : Source} {visit : List Text × Value}
    (covered : IsCovered source.root visit.2) :
    Acc (fun inner outer => Calls source outer inner) visit :=
  .intro visit fun _ calls =>
    have := weight_lt_of_calls calls covered
    acc_of_isCovered this.1
termination_by weight source.root visit.1 visit.2
decreasing_by exact (weight_lt_of_calls calls covered).2

/-- The recursions of an import come to an end, and to what the import takes from them. -/
structure ComesToEnds (source : Source) : Prop where
  /-- A call of the converter leads to lighter calls only. -/
  calls : ∀ outer inner, IsCovered source.root outer.2 → Calls source outer inner →
    weight source.root inner.1 inner.2 < weight source.root outer.1 outer.2
  /-- Every chain of calls of the converter ends. -/
  chains : ∀ visit, IsCovered source.root visit.2 →
    Acc (fun inner outer => Calls source outer inner) visit
  /-- The converter comes to a result with any references being replaced. -/
  converts : ∀ depth stack node, IsCovered source.root node →
    weight source.root stack node < depth →
    ∃ result, schemaWithin source depth stack node = settled result
  /-- Following references comes to a result with any references followed before. -/
  follows : ∀ steps seen value, IsCovered source.root value →
    (remaining source.root seen).length < steps →
    ∃ result, followWithin source.root steps seen value = some result
  /-- With the limit for its depth the converter comes to what the import makes of a node. -/
  schemas : ∀ depth node, IsWithin source.root node → limit source.root ≤ depth →
    schemaWithin source depth [] node = settled (schemaOf source node)
  /-- With the same limit it comes to the named schemas of the import. -/
  named : ∀ depth, limit source.root ≤ depth →
    namedSchemasWithin source depth = settled (namedSchemas source)
  /-- With one step more than there are references, following them comes to what the import
  takes for the value. -/
  targets : ∀ steps value, IsCovered source.root value → source.references.length < steps →
    (followWithin source.root steps [] value).map (·.mapError Abort.failed) =
      some (source.follow value)

theorem remaining_nil (root : Value) : remaining root [] = Reference.distinctIn root := by
  simp [remaining]

theorem namedSchemasWithin_eq {document : Value} {source : Source} {depth : Nat}
    (made : Source.ofDocument document = .ok source) (enough : limit source.root ≤ depth) :
    namedSchemasWithin source depth = settled (namedSchemas source) := by
  obtain ⟨rfl, references, within⟩ := isWithin_of_mem_definitions made
  have converted : ∀ entry ∈ source.definitions,
      (do
        let schema ← schemaWithin source depth [source.dialect.schemaStart ++ entry.1.display]
          entry.2
        pure (entry.1.display, schema) : Attempt (Text × Schema)) =
      settled (do
        let schema ← schemaFrom source
          (source.references.erase (source.dialect.schemaStart ++ entry.1.display)) entry.2
        pure (entry.1.display, schema)) := by
    intro entry member
    have inside := within entry member
    have lighter := weight_lt_limit inside [source.dialect.schemaStart ++ entry.1.display]
    have same : source.references.erase (source.dialect.schemaStart ++ entry.1.display) =
        remaining source.root [source.dialect.schemaStart ++ entry.1.display] := by
      rw [references, ← remaining_nil, Reference.remaining_erase]
    rw [schemaWithin_eq same inside.covered (by omega)]
    exact settled_bind fun _ => rfl
  unfold namedSchemasWithin namedSchemas
  rw [mapM_settled converted]
  exact settled_bind fun _ => rfl

/-- However the references of a document point, the recursions of its import come to an end. -/
theorem comesToEnds_of_ofDocument {document : Value} {source : Source}
    (made : Source.ofDocument document = .ok source) : ComesToEnds source := by
  obtain ⟨rfl, references, _⟩ := isWithin_of_mem_definitions made
  have all : source.references = remaining source.root [] := by rw [references, remaining_nil]
  exact {
    calls := fun _ _ covered calls => (weight_lt_of_calls calls covered).2
    chains := fun _ covered => acc_of_isCovered covered
    converts := fun _ _ _ covered enough => ⟨_, schemaWithin_eq rfl covered enough⟩
    follows := fun _ _ _ covered enough => ⟨_, followWithin_eq rfl covered enough⟩
    schemas := fun _ _ within enough =>
      schemaWithin_eq all within.covered (Nat.lt_of_lt_of_le (weight_lt_limit within []) enough)
    named := fun _ enough => namedSchemasWithin_eq made enough
    targets := fun _ value covered enough => by
      rw [followWithin_eq all covered enough]
      unfold Source.follow
      cases Reference.followFrom source.root source.references value <;> rfl }

/-- A description with references that come back: a path to itself, a list of lists, and a tree
whose branch stands for the tree. -/
def loopDocument : Value :=
  .map [
    (.str "openapi", .str "3.0.0"),
    (.str "paths", .map [(.str "/loop", .map [(.str "$ref", .str "#/paths/~1loop")])]),
    (.str "components", .map [(.str "schemas", .map [
      (.str "Nest", .map [(.str "type", .str "array"),
        (.str "items", .map [(.str "$ref", .str "#/components/schemas/Nest")])]),
      (.str "Tree", .map [(.str "oneOf", .list [.map [(.str "$ref", .str "#/tree")]])])])]),
    (.str "tree", .map [(.str "properties", .map [
      (.str "branch", .map [(.str "$ref", .str "#/tree")])])])]

/-- The list of lists keeps its name, nothing is known about the branch of the tree, and the path
is circular. -/
theorem comesToEnds_of_loopDocument :
    ∃ source, Source.ofDocument loopDocument = .ok source ∧ ComesToEnds source ∧
      namedSchemas source = .ok [
        ("Nest", .array .none (.reference .none "Nest")),
        ("Tree", .object .none [("branch", .unknown)] [] none)] ∧
      source.follow (.map [(.str "$ref", .str "#/paths/~1loop")]) =
        .error (.failed (.unresolvable "#/paths/~1loop" .circular)) := by
  obtain ⟨source, made⟩ : ∃ source, Source.ofDocument loopDocument = .ok source := ⟨_, rfl⟩
  have ends := comesToEnds_of_ofDocument made
  refine ⟨source, made, ends, ?_, ?_⟩
  · have settles := ends.named _ (Nat.le_refl _)
    cases made
    exact settled_inj (settles.symm.trans (by with_unfolding_all rfl))
  · have settles := ends.targets 4 (.map [(.str "$ref", .str "#/paths/~1loop")])
    cases made
    have covered : ∀ reference ∈ all (.map [(.str "$ref", .str "#/paths/~1loop")]),
        reference ∈ all loopDocument := by
      decide +kernel
    exact Option.some.inj ((settles covered (by decide +kernel)).symm.trans
      (by with_unfolding_all rfl))

end Import
end ApiForge
