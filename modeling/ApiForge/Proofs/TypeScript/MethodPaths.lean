import ApiForge.Proofs.Model.Groups
import ApiForge.Proofs.TypeScript.ClassMembers

/-!
# Paths of methods

A call reaches a method through the member of the class that the method stands
in. The paths of all methods are read off the lines of the class: a line that
declares a member opens it, and a line that goes on after four blanks with a
name and an asynchronous function begins a method in the open member. A client
has one method for each operation, in the member of the operation's group.
-/

namespace ApiForge.TypeScript

/-- The member and the method through which a call goes. -/
structure MethodPath where
  member : Text
  method : Text
  deriving DecidableEq, Repr

namespace MethodPath

/-- The path as a call spells it. -/
def spell (path : MethodPath) : Text :=
  path.member ++ "." ++ path.method

/-- The path of an operation's method. -/
def ofOperation (operation : Operation) : MethodPath :=
  ⟨Naming.group operation.group, Naming.camel operation.identifier⟩

/-- The paths of the methods of a group. -/
def ofGroup (group : ClientGroup) : List MethodPath :=
  group.methods.map fun method => ⟨group.name, method.name⟩

end MethodPath

/-- The method that a line begins. -/
def methodOfLine? : Text → Option Text
  | ' ' :: ' ' :: ' ' :: ' ' :: rest =>
      let name := rest.takeWhile Naming.isIdentifierPart
      if !name.isEmpty && Text.startsWith (rest.drop name.length) ": async (" then some name
      else none
  | _ => none

/-- The paths of the methods that lines begin; `member` is open before the first line. -/
def methodPathsFrom (member : Text) : List Text → List MethodPath
  | [] => []
  | line :: rest =>
      match memberOfLine? line with
      | some opened => methodPathsFrom opened rest
      | none => ((methodOfLine? line).map (MethodPath.mk member)).toList ++
          methodPathsFrom member rest

/-- The paths of all methods of the class. -/
def ClientFile.methodPaths (file : ClientFile) : List MethodPath :=
  methodPathsFrom [] file.classLines

/-! ## Reading lines -/

/-- The member that is open after lines. -/
def openAfter (member : Text) (lines : List Text) : Text :=
  lines.foldl (fun opened line => (memberOfLine? line).getD opened) member

theorem methodPathsFrom_append (member : Text) (first second : List Text) :
    methodPathsFrom member (first ++ second) =
      methodPathsFrom member first ++ methodPathsFrom (openAfter member first) second := by
  induction first generalizing member with
  | nil => rfl
  | cons line rest ih =>
      rw [List.cons_append, methodPathsFrom, methodPathsFrom, openAfter, List.foldl_cons]
      cases declared : memberOfLine? line with
      | some opened => exact ih opened
      | none =>
          rw [List.append_assoc]
          exact congrArg _ (ih member)

/-- Lines that declare no member begin their methods in the open one. -/
theorem methodPathsFrom_of_inside {lines : List Text}
    (inside : lines.filterMap memberOfLine? = []) (member : Text) :
    methodPathsFrom member lines = (lines.filterMap methodOfLine?).map (MethodPath.mk member) := by
  induction lines with
  | nil => rfl
  | cons line rest ih =>
      rw [List.filterMap_eq_nil_iff] at inside
      rw [methodPathsFrom, inside line List.mem_cons_self]
      have others := ih (List.filterMap_eq_nil_iff.mpr fun other inRest =>
        inside other (List.mem_cons_of_mem line inRest))
      cases begun : methodOfLine? line <;> simp [begun, others]

/-! ## Methods of a group -/

theorem methodOfLine?_of_not_part {letter : Char} (rest : Text)
    (noName : Naming.isIdentifierPart letter = false) :
    methodOfLine? (' ' :: ' ' :: ' ' :: ' ' :: letter :: rest) = none := by
  simp [methodOfLine?, noName]

/-- The head of a method begins it. -/
theorem methodOfLine?_head {method : ClientMethod}
    (identified : Naming.isIdentifier method.name = true) :
    methodOfLine? method.head = some method.name := by
  have filled : method.name.isEmpty = false := by
    cases letters : method.name with
    | nil =>
        rw [letters] at identified
        cases identified
    | cons first rest => rfl
  obtain ⟨rest, head⟩ : ∃ rest, method.head =
      ' ' :: ' ' :: ' ' :: ' ' :: (method.name ++ (": async (".toList ++ rest)) := by
    unfold ClientMethod.head
    dsimp only
    rw [List.append_assoc, List.append_assoc, List.append_assoc, List.append_assoc,
      List.append_assoc]
    exact ⟨_, rfl⟩
  have stopped : (method.name ++ (": async (".toList ++ rest)).takeWhile
      Naming.isIdentifierPart = method.name := by
    rw [List.takeWhile_append_of_pos (Naming.isIdentifierPart_of_mem identified)]
    exact List.append_nil method.name
  have goesOn : Text.startsWith (": async (".toList ++ rest) ": async (" = true :=
    List.isPrefixOf_iff_prefix.mpr (List.prefix_append _ _)
  rw [head, methodOfLine?]
  rw [stopped, filled, List.drop_left, goesOn]
  rfl

theorem filterMap_methodOfLine? {method : ClientMethod}
    (identified : Naming.isIdentifier method.name = true) :
    method.lines.filterMap methodOfLine? = [method.name] := by
  have none : ∀ lines, AreBodyLines lines → lines.filterMap methodOfLine? = [] := by
    intro lines body
    rw [List.filterMap_eq_nil_iff]
    intro line member
    obtain ⟨letter, rest, rfl, noName⟩ := body line member
    exact methodOfLine?_of_not_part rest noName
  obtain ⟨before, after, same, above, below⟩ := exists_lines_eq method
  rw [same, List.filterMap_append, none before above,
    List.filterMap_cons_some (methodOfLine?_head identified), none after below]
  rfl

/-- The names of a group and of its methods are identifiers. -/
structure IsNamed (group : ClientGroup) : Prop where
  member : Naming.isIdentifier group.name = true
  methods : ∀ method ∈ group.methods, Naming.isIdentifier method.name = true

/-- The lines of a group begin its methods in its own member, whichever was open before. -/
theorem methodPathsFrom_groupLines {group : ClientGroup} (named : IsNamed group) (member : Text) :
    methodPathsFrom member group.lines = MethodPath.ofGroup group := by
  have closed : ["  \x7d;".toList].filterMap methodOfLine? = [] := by decide
  have begun : (separated (group.methods.map (·.lines)) ++ ["  \x7d;".toList]).filterMap
      methodOfLine? = group.methods.map (·.name) := by
    rw [List.filterMap_append, closed, List.append_nil, filterMap_separated rfl, List.flatMap_map,
      List.map_eq_flatMap]
    exact List.flatMap_congr fun method listed =>
      filterMap_methodOfLine? (named.methods method listed)
  unfold ClientGroup.lines
  rw [Naming.propertyKey_of_isIdentifier named.member, List.cons_append, methodPathsFrom,
    memberOfLine?_readonly named.member]
  dsimp only
  rw [methodPathsFrom_of_inside (filterMap_methodsLines group.methods), begun, List.map_map]
  rfl

theorem methodPathsFrom_separated {groups : List ClientGroup}
    (named : ∀ group ∈ groups, IsNamed group) (member : Text) :
    methodPathsFrom member (separated (groups.map (·.lines))) =
      groups.flatMap MethodPath.ofGroup := by
  induction groups generalizing member with
  | nil => rfl
  | cons group rest ih =>
      have here := methodPathsFrom_groupLines (named group List.mem_cons_self)
      have there := ih fun other inRest => named other (List.mem_cons_of_mem group inRest)
      cases rest with
      | nil =>
          rw [List.flatMap_singleton]
          exact here member
      | cons other others =>
          change methodPathsFrom member
            (group.lines ++ [[]] ++ separated ((other :: others).map (·.lines))) = _
          rw [List.append_assoc, methodPathsFrom_append, here, List.flatMap_cons,
            methodPathsFrom_append, there]
          rfl

/-! ## Methods of a client -/

theorem filterMap_methodOfLine?_coreLines : coreLines.filterMap methodOfLine? = [] := by
  decide +kernel

theorem methodPathsFrom_of_no_method {lines : List Text}
    (none : lines.filterMap methodOfLine? = []) (member : Text) :
    methodPathsFrom member lines = [] := by
  induction lines generalizing member with
  | nil => rfl
  | cons line rest ih =>
      rw [List.filterMap_eq_nil_iff] at none
      have others := ih (List.filterMap_eq_nil_iff.mpr fun other inRest =>
        none other (List.mem_cons_of_mem line inRest))
      rw [methodPathsFrom, none line List.mem_cons_self]
      cases memberOfLine? line <;> simp [others]

/-- The class has one method for each operation, group by group, in the member of the group. -/
theorem methodPaths_of_clientFile {api : Api} {clientName : Text} {client : ClientFile}
    (made : ClientFile.ofApi api clientName = .ok client) :
    client.methodPaths = (api.groups.flatMap (·.2)).map MethodPath.ofOperation := by
  have named : ∀ group ∈ client.groups, IsNamed group := by
    rw [groups_of_clientFile made]
    intro group member
    obtain ⟨entry, _, rfl⟩ := List.mem_map.mp member
    refine ⟨Naming.isIdentifier_camel _, fun method listed => ?_⟩
    obtain ⟨operation, _, rfl⟩ := List.mem_map.mp listed
    exact Naming.isIdentifier_camel _
  have core : methodPathsFrom [] (coreLines ++ [[]]) = [] :=
    methodPathsFrom_of_no_method (by
      rw [List.filterMap_append, filterMap_methodOfLine?_coreLines]
      rfl) []
  unfold ClientFile.methodPaths ClientFile.classLines
  rw [methodPathsFrom_append, core, methodPathsFrom_separated named, groups_of_clientFile made,
    List.nil_append, List.flatMap_map, List.map_flatMap]
  refine List.flatMap_congr fun entry listed => ?_
  unfold MethodPath.ofGroup
  rw [List.map_map]
  refine List.map_congr_left fun operation member => ?_
  rw [MethodPath.ofOperation, Api.group_of_mem listed member]
  rfl

/-- Paths of methods differ where the identifiers of the operations differ in Pascal form. -/
theorem map_methodPath_nodup {operations : List Operation}
    (distinct : (operations.map fun operation => Naming.pascal operation.identifier).Nodup) :
    (operations.map MethodPath.ofOperation).Nodup := by
  rw [List.Nodup, List.pairwise_map] at distinct ⊢
  refine distinct.imp fun apart same => ?_
  exact apart (Naming.pascal_eq_of_camel_eq (congrArg MethodPath.method same))

end ApiForge.TypeScript
