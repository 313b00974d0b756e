import ApiForge.Document.Height
import ApiForge.Import.SchemaForm
import ApiForge.Import.Source
import ApiForge.Text.Keyed

/-!
# Importing schemas

A reference that points straight at a named schema stays a reference. Every
other reference is replaced by what it leads to, unless that is already being
replaced, in which case nothing is known about the value. Each replacement takes
its reference off the pending ones and every other step goes into a node, so this
comes to an end.
-/

namespace ApiForge.Import

/-- The nodes inside a form. -/
def SchemaForm.nodes : SchemaForm → List Value
  | .branch node => [node]
  | .array _ items => [items]
  | .object _ properties _ additional =>
      properties.map (·.2) ++ additional.node?.toList
  | _ => []

theorem height_firstBranch_lt {entries : Entries} {branch : Value}
    (found : firstBranch? entries = some branch) :
    branch.height < (Value.map entries).height := by
  obtain ⟨keyword, _, held⟩ := List.exists_of_findSome?_eq_some found
  split at held
  · next first rest value =>
      have outer := Value.height_field_le value
      have inner : first.height ≤ heightOfItems (first :: rest) :=
        Value.height_le_of_mem_items (List.mem_cons_self ..)
      simp only [Option.some.injEq] at held
      subst held
      simp only [Value.height] at outer ⊢
      omega
  · cases held

theorem height_additional_lt {entries : Entries} {node : Value}
    (found : (additionalOf entries).node? = some node) :
    node.height < (Value.map entries).height := by
  unfold additionalOf at found
  split at found
  · cases found
  · next inner value =>
      have := Value.height_field_le value
      cases found
      simp only [Value.height] at this ⊢
      omega
  · cases found

theorem nodes_primitiveForm (notes : RawNotes) (type : Option Text) :
    (primitiveForm notes type).nodes = [] := by
  unfold primitiveForm
  split
  · rfl
  · split <;> rfl

theorem height_plainForm_lt {entries : Entries} {form : SchemaForm}
    (formed : plainForm entries = .ok form) {node : Value} (member : node ∈ form.nodes) :
    node.height < (Value.map entries).height := by
  unfold plainForm at formed
  simp only [bind, Except.bind, pure, Except.pure] at formed
  split at formed
  · split at formed
    · cases formed
    · cases formed; simp [SchemaForm.nodes] at member
  · split at formed
    · cases formed
      simp only [SchemaForm.nodes, List.mem_singleton] at member
      exact member ▸ Value.height_fieldOrNull_lt ..
    · split at formed
      · split at formed
        · cases formed
        · next properties found =>
            cases formed
            simp only [SchemaForm.nodes, List.mem_append, List.mem_map] at member
            rcases member with ⟨⟨key, value⟩, inProperties, same⟩ | inAdditional
            · have inner := Value.height_le_of_mem_entries inProperties
              have outer := Value.height_fieldEntries_le found
              rcases outer with lower | none
              · have value_eq : value = node := same
                subst value_eq
                simp only [Value.height]
                omega
              · simp [none] at inProperties
            · exact height_additional_lt (Option.mem_toList.mp inAdditional)
      · cases formed
        simp [nodes_primitiveForm] at member

/-- A node inside a form is lower than the node with the form. -/
theorem height_lt_of_formOf {node inner : Value} {form : SchemaForm}
    (formed : formOf node = .ok form) (member : inner ∈ form.nodes) :
    inner.height < node.height := by
  unfold formOf at formed
  split at formed
  · split at formed
    · cases formed; simp [SchemaForm.nodes] at member
    · split at formed
      · next branch found =>
          cases formed
          simp only [SchemaForm.nodes, List.mem_singleton] at member
          exact member ▸ height_firstBranch_lt found
      · exact height_plainForm_lt formed member
  · cases formed; simp [SchemaForm.nodes] at member

/-- The height of what a reference leads to. -/
def targetHeight (source : Source) (reference : Text) : Nat :=
  match Reference.target source.root reference with
  | .ok found => found.height
  | .error _ => 0

/-- How much the references can bring in at most. -/
def burden (source : Source) : List Text → Nat
  | [] => 0
  | reference :: rest => targetHeight source reference + 1 + burden source rest

/-- How much there may be to import: the node and what its references can bring in. -/
def workload (source : Source) (pending : List Text) (node : Value) : Nat :=
  node.height + burden source pending

theorem burden_erase (source : Source) {pending : List Text} {reference : Text}
    (member : reference ∈ pending) :
    burden source (pending.erase reference) + targetHeight source reference + 1 =
      burden source pending := by
  induction pending with
  | nil => cases member
  | cons first rest ih =>
      by_cases same : first = reference
      · rw [same, List.erase_cons_head, burden]
        omega
      · have inRest : reference ∈ rest :=
          (List.mem_cons.mp member).resolve_left fun equal => same equal.symm
        have others := ih inRest
        rw [List.erase_cons_tail (by simpa using same), burden, burden]
        omega

/-- What a reference leads to takes its place in the workload. -/
theorem workload_target_lt {source : Source} {pending : List Text} {node found : Value}
    {reference : Text} (member : reference ∈ pending)
    (leads : Reference.target source.root reference = .ok found) :
    workload source (pending.erase reference) found < workload source pending node := by
  have height : targetHeight source reference = found.height := by
    unfold targetHeight
    rw [leads]
  have total := burden_erase source member
  unfold workload
  omega

theorem workload_inner_lt {source : Source} {pending : List Text} {node inner : Value}
    {form : SchemaForm} (formed : formOf node = .ok form) (member : inner ∈ form.nodes) :
    workload source pending inner < workload source pending node :=
  Nat.add_lt_add_right (height_lt_of_formOf formed member) _

/-- The schema with notes that are checked. -/
def noted (notes : RawNotes) (schema : Notes → Schema) : Except Abort Schema :=
  (notes.check.map schema).orAbort

/-- What an object allows beside its properties, `inner` being the schema of its node. -/
def Additional.schema? (inner : Option Schema) : Additional → Option Schema
  | .nothing => none
  | .anything => some .unknown
  | .schema _ => inner

/-- Imports a node; `pending` are the references that are not being replaced. -/
def schemaFrom (source : Source) (pending : List Text) (node : Value) : Except Abort Schema :=
  match _formed : formOf node with
  | .error abort => .error abort
  | .ok .shapeless => .ok .unknown
  | .ok (.reference reference) =>
      match source.schemaName? reference with
      | .error failure => .error (.failed failure)
      | .ok (some name) =>
          if Entries.contains (.str name) source.definitions then .ok (.reference .none name)
          else .error (.failed (.unresolvable reference .absent))
      | .ok none =>
          if _member : reference ∈ pending then
            match _leads : Reference.target source.root reference with
            | .ok found => schemaFrom source (pending.erase reference) found
            | .error failure => .error (.failed failure)
          else .ok .unknown
  | .ok (.branch inner) => schemaFrom source pending inner
  | .ok (.enumeration notes values) => noted notes (.enumeration · values)
  | .ok (.array notes items) => do
      let items ← schemaFrom source pending items
      noted notes (.array · items)
  | .ok (.object notes properties required additional) => do
      let imported ← properties.attach.mapM fun ⟨(key, value), _⟩ => do
        let schema ← schemaFrom source pending value
        pure (key.display, schema)
      let inner ← additional.node?.attach.mapM fun ⟨inner, _⟩ => schemaFrom source pending inner
      noted notes (.object · (Keyed.ofList imported) required (additional.schema? inner))
  | .ok (.primitive notes type) => noted notes (.primitive · type)
termination_by workload source pending node
decreasing_by
  · exact workload_target_lt _member _leads
  · exact workload_inner_lt _formed (by simp [SchemaForm.nodes])
  · exact workload_inner_lt _formed (by simp [SchemaForm.nodes])
  · next member =>
      exact workload_inner_lt _formed (List.mem_append_left _ (List.mem_map_of_mem member))
  · next member =>
      exact workload_inner_lt _formed (List.mem_append_right _ (Option.mem_toList.mpr member))

/-- Imports a node that is no named schema. -/
def schemaOf (source : Source) (node : Value) : Except Abort Schema :=
  schemaFrom source source.references node

/-- Imports the named schemas. Inside a named schema the reference to it is being replaced. -/
def namedSchemas (source : Source) : Except Abort (List (Text × Schema)) := do
  let imported ← source.definitions.mapM fun (key, node) => do
    let name := key.display
    let schema ←
      schemaFrom source (source.references.erase (source.dialect.schemaStart ++ name)) node
    pure (name, schema)
  pure (Keyed.ofList imported)

end ApiForge.Import
