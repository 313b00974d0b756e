import ApiForge.Import.Schema
import ApiForge.Proofs.Success

/-!
# References of imported schemas

The names that a schema refers to, at any depth of items, properties and
additional properties. An imported schema refers to named schemas of its source
only, since a reference to any other name ends the import.
-/

namespace ApiForge

mutual

/-- The names that a schema refers to. -/
def Schema.references : Schema → List Text
  | .primitive .. => []
  | .enumeration .. => []
  | .array _ items => items.references
  | .object _ properties _ additional =>
      referencesOfProperties properties ++ referencesOfAdditional additional
  | .reference _ name => [name]
  termination_by structural schema => schema

def referencesOfProperties : List (Text × Schema) → List Text
  | [] => []
  | (_, schema) :: rest => schema.references ++ referencesOfProperties rest
  termination_by structural properties => properties

def referencesOfAdditional : Option Schema → List Text
  | none => []
  | some schema => schema.references
  termination_by structural additional => additional

end

theorem mem_referencesOfProperties {name : Text} {properties : List (Text × Schema)} :
    name ∈ referencesOfProperties properties ↔
      ∃ property ∈ properties, name ∈ property.2.references := by
  induction properties with
  | nil => simp [referencesOfProperties]
  | cons first rest ih => simp [referencesOfProperties, ih]

theorem mem_referencesOfAdditional {name : Text} {additional : Option Schema} :
    name ∈ referencesOfAdditional additional ↔
      ∃ schema, additional = some schema ∧ name ∈ schema.references := by
  cases additional <;> simp [referencesOfAdditional]

namespace Source

/-- The names under which the source has schemas. -/
def schemaNames (source : Source) : List Text :=
  source.definitions.map (·.1.display)

/-- All names that the schema refers to are names of schemas. -/
def Covers (source : Source) (schema : Schema) : Prop :=
  ∀ name ∈ schema.references, name ∈ source.schemaNames

theorem covers_of_no_references {source : Source} {schema : Schema}
    (none : schema.references = []) : source.Covers schema := by
  intro name member
  rw [none] at member
  cases member

/-- An object is covered if its properties and what it allows beside them are. -/
theorem covers_object {source : Source} {notes : Notes} {properties : List (Text × Schema)}
    {required : List Text} {additional : Option Schema}
    (inside : ∀ property ∈ properties, source.Covers property.2)
    (beside : ∀ schema, additional = some schema → source.Covers schema) :
    source.Covers (.object notes properties required additional) := by
  intro name member
  rw [Schema.references, List.mem_append, mem_referencesOfProperties,
    mem_referencesOfAdditional] at member
  rcases member with ⟨property, inProperties, mentioned⟩ | ⟨schema, allowed, mentioned⟩
  · exact inside property inProperties name mentioned
  · exact beside schema allowed name mentioned

/-- A text is a key of a mapping only as the key that displays as this text. -/
theorem isSameKey_str {key : Scalar} {name : Text} (same : key.isSameKey (.str name) = true) :
    key = .str name := by
  have uncounted : (Scalar.str name).number? = none := rfl
  cases counted : key.number? with
  | none => cases key <;> simp_all [Scalar.isSameKey]
  | some number =>
      rcases number with whole | value
      · simp [Scalar.isSameKey, counted, uncounted] at same
      · cases value <;> simp [Scalar.isSameKey, counted, uncounted] at same

theorem mem_schemaNames {source : Source} {name : Text}
    (contained : Entries.contains (.str name) source.definitions = true) :
    name ∈ source.schemaNames := by
  obtain ⟨entry, member, same⟩ := List.any_eq_true.mp contained
  refine List.mem_map.mpr ⟨entry, member, ?_⟩
  rw [isSameKey_str same]
  rfl

end Source

namespace Import

theorem exists_of_noted {notes : RawNotes} {make : Notes → Schema} {schema : Schema}
    (success : noted notes make = .ok schema) : ∃ checked, make checked = schema := by
  obtain ⟨checked, _, made⟩ := Success.of_checkedMap (Success.of_orAbort success)
  exact ⟨checked, made⟩

/-- What an object allows beside its properties is imported from its node or is unknown. -/
theorem covers_additional {source : Source} {additional : Additional} {inner : Option Schema}
    (imported : ∀ schema, inner = some schema → source.Covers schema) :
    ∀ schema, additional.schema? inner = some schema → source.Covers schema := by
  intro schema allowed
  cases additional with
  | nothing => cases allowed
  | anything =>
      cases allowed
      exact Source.covers_of_no_references rfl
  | schema node => exact imported schema allowed

/-- An imported schema refers to named schemas of its source only. -/
theorem covers_of_schemaFrom {source : Source} {pending : List Text} {node : Value}
    {schema : Schema} (success : schemaFrom source pending node = .ok schema) :
    source.Covers schema := by
  fun_induction schemaFrom source pending node generalizing schema with
  | case1 | case3 | case5 | case7 => cases success
  | case2 | case8 =>
      cases success
      exact Source.covers_of_no_references rfl
  | case4 _ _ _ _ name _ contained =>
      cases success
      intro mentioned member
      rw [List.mem_singleton.mp member]
      exact Source.mem_schemaNames contained
  | case6 _ _ _ _ _ _ _ _ ih => exact ih success
  | case9 _ _ _ _ ih => exact ih success
  | case10 | case13 =>
      obtain ⟨checked, rfl⟩ := exists_of_noted success
      exact Source.covers_of_no_references rfl
  | case11 pending node notes items formed ih =>
      obtain ⟨inner, imported, success⟩ := Success.of_bind success
      obtain ⟨checked, rfl⟩ := exists_of_noted success
      exact fun name member => ih imported name member
  | case12 pending node notes properties required additional formed ofProperty ofAdditional =>
      obtain ⟨imported, traversed, success⟩ := Success.of_bind success
      obtain ⟨inner, allowed, success⟩ := Success.of_bind success
      obtain ⟨checked, rfl⟩ := exists_of_noted success
      refine Source.covers_object (fun property member => ?_) (covers_additional ?_)
      · obtain ⟨⟨⟨key, value⟩, inProperties⟩, _, converted⟩ :=
          Success.exists_of_mem_mapM traversed (Keyed.mem_of_mem_ofList member)
        obtain ⟨schema, found, made⟩ := Success.of_bind converted
        cases made
        exact ofProperty key value inProperties found
      · rintro schema rfl
        obtain ⟨⟨value, node⟩, _, found⟩ := Success.of_optionMapM allowed
        exact ofAdditional value node found

end Import

end ApiForge
