import ApiForge.Proofs.Assignment
import ApiForge.Proofs.Import.OperationSites
import ApiForge.Proofs.TypeScript.DeclaredNames
import Mathlib.Data.List.Nodup

/-!
# Distinct declared names

The file of types of an imported API declares no name twice. The types of two
schemas differ because their names could be assigned, a type of a schema and one
of an operation because the file was checked for it, and the types of two
operations because their identifiers differ in Pascal form and no two suffixes
end alike.
-/

namespace ApiForge.TypeScript

/-! ## The types of operations -/

/-- The suffixes that an operation's types have, in order. -/
def suffixesOf (operation : Operation) : List Text :=
  (if operation.fields.isEmpty then [] else [Naming.paramsSuffix]) ++
    (if operation.body.isSome then [Naming.requestSuffix] else []) ++ [Naming.responseSuffix]

/-- The suffixes of the types of operations. -/
def suffixes : List Text :=
  [Naming.paramsSuffix, Naming.requestSuffix, Naming.responseSuffix]

theorem suffixesOf_sublist (operation : Operation) : (suffixesOf operation).Sublist suffixes := by
  unfold suffixesOf
  split <;> split <;> decide

theorem operationTypes_eq_map (operation : Operation) :
    operationTypes operation =
      (suffixesOf operation).map (Naming.operationType operation.identifier) := by
  unfold operationTypes suffixesOf paramsType? requestType?
  cases operation.body <;> by_cases none : operation.fields.isEmpty <;> simp [none, responseType]

/-- The last letter of a type tells its suffix. -/
theorem suffix_eq_of_append_eq {first second one other : Text} (oneSuffix : one ∈ suffixes)
    (otherSuffix : other ∈ suffixes) (same : first ++ one = second ++ other) : one = other := by
  have apart : ∀ one ∈ suffixes, ∀ other ∈ suffixes, one.getLast? = other.getLast? →
      one = other := by decide
  have ended : ∀ suffix ∈ suffixes, ∀ name : Text,
      (name ++ suffix).getLast? = suffix.getLast? := by
    intro suffix member name
    have filled : suffix ≠ [] := (by decide : ∀ suffix ∈ suffixes, suffix ≠ []) suffix member
    exact List.getLast?_append_of_ne_nil name filled
  refine apart one oneSuffix other otherSuffix ?_
  rw [← ended one oneSuffix first, same, ended other otherSuffix second]

/-- Types of operations are equal only if the operations' identifiers are in Pascal form. -/
theorem pascal_eq_of_operationType_eq {first second one other : Text} (oneSuffix : one ∈ suffixes)
    (otherSuffix : other ∈ suffixes)
    (same : Naming.operationType first one = Naming.operationType second other) :
    Naming.pascal first = Naming.pascal second := by
  have suffix : one = other := suffix_eq_of_append_eq oneSuffix otherSuffix same
  subst suffix
  exact List.append_cancel_right same

theorem operationTypes_nodup (operation : Operation) : (operationTypes operation).Nodup := by
  have suffixes_nodup : suffixes.Nodup := by decide
  rw [operationTypes_eq_map]
  refine List.Nodup.map ?_ (suffixes_nodup.sublist (suffixesOf_sublist operation))
  intro one other same
  exact List.append_cancel_left same

theorem pascal_eq_of_mem_operationTypes {first second : Operation} {type : Text}
    (ofFirst : type ∈ operationTypes first) (ofSecond : type ∈ operationTypes second) :
    Naming.pascal first.identifier = Naming.pascal second.identifier := by
  rw [operationTypes_eq_map, List.mem_map] at ofFirst ofSecond
  obtain ⟨one, oneSuffix, rfl⟩ := ofFirst
  obtain ⟨other, otherSuffix, same⟩ := ofSecond
  exact (pascal_eq_of_operationType_eq ((suffixesOf_sublist second).subset otherSuffix)
    ((suffixesOf_sublist first).subset oneSuffix) same).symm

/-! ## The identifiers of an imported API -/

/-- No two operations of a description have the same identifier in Pascal form. -/
theorem pascal_nodup_of_operationsOf {source : Source} {operations : List Operation}
    (success : Import.operationsOf source = .ok operations) :
    (operations.map fun operation => Naming.pascal operation.identifier).Nodup := by
  obtain ⟨paths, listed, _⟩ := Success.of_bind success
  exact ((Import.operationsOf_eq_ok_iff listed).mp success).2.2

theorem schemas_nodup_of_namedSchemas {source : Source} {schemas : List (Text × Schema)}
    (success : Import.namedSchemas source = .ok schemas) : (schemas.map (·.1)).Nodup := by
  obtain ⟨imported, _, success⟩ := Success.of_bind success
  cases success
  exact Keyed.ofList_nodup imported

/-! ## Names of a file of types -/

/-- A checked operation has no type in common with the schemas. -/
theorem not_mem_operationTypes_of_checkTypes {owners : List (Text × Text)} {operation : Operation}
    (checked : checkTypes owners operation = .ok ()) {owner : Text × Text}
    (member : owner ∈ owners) : owner.2 ∉ operationTypes operation := by
  intro inTypes
  unfold checkTypes at checked
  dsimp only at checked
  split at checked
  · cases checked
  · next unmet =>
      have unfound := List.findSome?_eq_none_iff.mp unmet owner.2 inTypes
      exact List.find?_eq_none.mp unfound owner member (beq_iff_eq.mpr rfl)

theorem schemaTypes_nodup {api : Api} {owners : List (Text × Text)}
    (distinct : (api.schemas.map (·.1)).Nodup)
    (assigned : Naming.assign "Schema" Naming.schemaType (api.schemas.map (·.1)) = .ok owners) :
    (api.schemas.map fun schema => Naming.schemaType schema.1).Nodup := by
  have names : (api.schemas.map fun schema => Naming.schemaType schema.1) =
      (api.schemas.map (·.1)).map Naming.schemaType := by
    rw [List.map_map]
    rfl
  rw [names]
  exact List.Nodup.map_on (fun first inFirst second inSecond same =>
    Naming.assign_injective assigned inFirst inSecond same) distinct

theorem operationTypes_flatMap_nodup {operations : List Operation}
    (distinct : (operations.map fun operation => Naming.pascal operation.identifier).Nodup) :
    (operations.flatMap operationTypes).Nodup := by
  rw [List.nodup_flatMap]
  refine ⟨fun operation _ => operationTypes_nodup operation, ?_⟩
  refine (List.pairwise_map.mp distinct).imp ?_
  intro first second apart type ofFirst ofSecond
  exact apart (pascal_eq_of_mem_operationTypes ofFirst ofSecond)

/-- The file of types of an imported API declares one name for each schema and then the names of
every operation's types, and no name twice. -/
theorem names_nodup_of_apiOf {document : Value} {foundAt : Option Text} {api : Api}
    {file : TypesFile} (imported : Import.apiOf document foundAt = .ok api)
    (declared : TypesFile.ofApi api = .ok file) :
    file.names = (api.schemas.map fun schema => Naming.schemaType schema.1) ++
        api.operations.flatMap operationTypes ∧
      file.names.Nodup := by
  obtain ⟨source, _, named, listed, _⟩ := Import.parts_of_apiOf imported
  obtain ⟨owners, assigned, checked, _, _⟩ := parts_of_typesFile declared
  have names := names_ofApi declared
  refine ⟨names, ?_⟩
  rw [names, List.nodup_append]
  refine ⟨schemaTypes_nodup (schemas_nodup_of_namedSchemas named) assigned,
    operationTypes_flatMap_nodup (pascal_nodup_of_operationsOf listed), ?_⟩
  intro type ofSchema other ofOperation same
  subst same
  obtain ⟨schema, inSchemas, rfl⟩ := List.mem_map.mp ofSchema
  obtain ⟨operation, inOperations, inTypes⟩ := List.mem_flatMap.mp ofOperation
  have owner := Naming.mem_assign assigned (List.mem_map.mpr ⟨schema, inSchemas, rfl⟩)
  exact not_mem_operationTypes_of_checkTypes (checked operation inOperations) owner inTypes

theorem names_nodup_of_petDocument :
    ∃ api, Import.apiOf petDocument none = .ok api ∧
      ∃ file, TypesFile.ofApi api = .ok file ∧
        file.names = ["Pet".toList, "ListPetsResponse".toList] ∧ file.names.Nodup := by
  have evaluated : ((Import.apiOf petDocument none).toOption.bind fun api =>
      (TypesFile.ofApi api).toOption).map (·.names) =
        some ["Pet".toList, "ListPetsResponse".toList] := by decide +kernel
  obtain ⟨file, found, names⟩ := Option.map_eq_some_iff.mp evaluated
  obtain ⟨api, imported, declared⟩ := Option.bind_eq_some_iff.mp found
  replace imported := Success.of_toOption imported
  replace declared := Success.of_toOption declared
  exact ⟨api, imported, file, declared, names, (names_nodup_of_apiOf imported declared).2⟩

end ApiForge.TypeScript
