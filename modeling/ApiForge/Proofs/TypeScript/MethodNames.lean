import ApiForge.Proofs.Import.OperationSites
import ApiForge.Proofs.Naming.Forms
import ApiForge.TypeScript.Client

/-!
# Names of methods

The import compares the identifiers of operations in Pascal form, and a client
names its methods by their camel forms. The forms tell the same identifiers
apart, so the import accepts exactly the operations whose methods have names of
their own.
-/

namespace ApiForge.TypeScript

open Import (OperationSite PathsLead checkIdentifier operationsOf pascalNames)

/-- The name of the method that a client has for an operation. -/
def methodName (operation : Operation) : Text :=
  (ClientMethod.ofOperation operation).name

def methodNames (operations : List Operation) : List Text :=
  operations.map methodName

theorem methodName_eq_iff {first second : Operation} :
    methodName first = methodName second ↔
      Naming.pascal first.identifier = Naming.pascal second.identifier :=
  Naming.camel_eq_iff

theorem methodNames_nodup_iff {operations : List Operation} :
    (methodNames operations).Nodup ↔ (pascalNames operations).Nodup := by
  unfold methodNames pascalNames List.Nodup
  rw [List.pairwise_map, List.pairwise_map]
  simp only [ne_eq, methodName_eq_iff]

/-- An operation passes the check if no operation before has a method with its name. -/
theorem checkIdentifier_eq_ok_iff {known : List Operation} {operation : Operation} :
    checkIdentifier known operation = .ok () ↔ methodName operation ∉ methodNames known := by
  have same : methodName operation ∈ methodNames known ↔
      Naming.pascal operation.identifier ∈ pascalNames known := by
    simp only [methodNames, pascalNames, List.mem_map, methodName_eq_iff]
  rw [same]
  constructor
  · intro passed taken
    obtain ⟨other, member, named⟩ := List.mem_map.mp taken
    unfold checkIdentifier at passed
    dsimp only at passed
    split at passed
    · cases passed
    · next unmet => exact List.find?_eq_none.mp unmet other member (beq_iff_eq.mpr named)
  · exact Import.checkIdentifier_of_not_mem

/-- The operations of a description are those of its sites, and their methods have distinct
names. -/
theorem operationsOf_eq_ok_iff_methodNames {source : Source} {operations : List Operation} :
    operationsOf source = .ok operations ↔
      ∃ paths, Value.fieldEntries "paths" source.entries = .ok paths ∧ PathsLead source paths ∧
        List.Forall₂ (fun site operation => site.convert source = .ok operation)
          (OperationSite.ofPaths source paths) operations ∧
        (methodNames operations).Nodup := by
  constructor
  · intro success
    obtain ⟨paths, listed, _⟩ := Success.of_bind success
    obtain ⟨lead, converted, distinct⟩ := (Import.operationsOf_eq_ok_iff listed).mp success
    exact ⟨paths, listed, lead, converted, methodNames_nodup_iff.mpr distinct⟩
  · rintro ⟨paths, listed, lead, converted, distinct⟩
    exact (Import.operationsOf_eq_ok_iff listed).mpr
      ⟨lead, converted, methodNames_nodup_iff.mp distinct⟩

/-- The forms of every text obey the laws of forms, and two texts have one camel form exactly if
they have one Pascal form. So an operation passes the check of the import exactly if its method has
another name than those of the operations before, and the operations of a description are imported
exactly if every path leads somewhere, every site can be converted and the names of the methods are
distinct. -/
theorem methodNames_of_forms :
    (∀ text, Naming.HasForms text) ∧
      (∀ first second, Naming.camel first = Naming.camel second ↔
        Naming.pascal first = Naming.pascal second) ∧
      (∀ known operation, checkIdentifier known operation = .ok () ↔
        methodName operation ∉ methodNames known) ∧
      ∀ source operations, operationsOf source = .ok operations ↔
        ∃ paths, Value.fieldEntries "paths" source.entries = .ok paths ∧ PathsLead source paths ∧
          List.Forall₂ (fun site operation => site.convert source = .ok operation)
            (OperationSite.ofPaths source paths) operations ∧
          (methodNames operations).Nodup :=
  ⟨Naming.hasForms, fun _ _ => Naming.camel_eq_iff, fun _ _ => checkIdentifier_eq_ok_iff,
    fun _ _ => operationsOf_eq_ok_iff_methodNames⟩

/-- A guard is no part of a word, so it does not come twice. -/
example : Naming.pascal "2nd-pet" = "_2ndPet" ∧ Naming.camel "_2ndPet" = "_2ndPet" ∧
    Naming.camel "Find-pets" = "findPets" := by
  decide

end ApiForge.TypeScript
