import ApiForge.Proofs.Assignment
import ApiForge.Proofs.Naming.Forms
import ApiForge.Proofs.TypeScript.DeclaredNames

/-!
# Members of the class

The class of a client has four members of its own and one for each group. The
members are read off the lines of the class: a line that begins with exactly two
blanks and a name declares one. Groups differ from each other in their members,
but nothing keeps a group from the name of a member that every class has.
-/

namespace ApiForge.TypeScript

/-- The modifiers that stand before the names of members. -/
def modifiers : List Text :=
  ["private readonly ", "private async ", "readonly "]

/-- The text without the modifiers in front. -/
def dropModifiers (text : Text) : Text :=
  match modifiers.find? text.startsWith with
  | some modifier => text.drop modifier.length
  | none => text

/-- The member that a line of the class declares; deeper lines and closing brackets declare none. -/
def memberOfLine? : Text → Option Text
  | ' ' :: ' ' :: rest =>
      match (dropModifiers rest).takeWhile Naming.isIdentifierPart with
      | [] => none
      | name => some name
  | _ => none

/-- The lines of the class between its braces. -/
def ClientFile.classLines (file : ClientFile) : List Text :=
  coreLines ++ [[]] ++ separated (file.groups.map (·.lines))

/-- The members of the class in order. -/
def ClientFile.members (file : ClientFile) : List Text :=
  file.classLines.filterMap memberOfLine?

theorem render_eq_classLines (file : ClientFile) :
    file.render = Text.lines
      (ClientFile.opening ++ ClientFile.importLines file.imports ++ sharedLines ++ [[]] ++
        ["export class " ++ file.name ++ " \x7b"] ++ file.classLines ++ [['\x7d'], []] ++
        ClientFile.factoryLines file.name) := by
  simp only [ClientFile.render, ClientFile.classLines, List.append_assoc]

/-! ## Members of the core -/

/-- The members that every class has. -/
def coreMembers : List Text :=
  ["baseUrl", "headers", "constructor", "request"]

theorem filterMap_coreLines : coreLines.filterMap memberOfLine? = coreMembers := by
  decide +kernel

/-! ## Members of groups -/

theorem memberOfLine?_deep (rest : Text) : memberOfLine? (' ' :: ' ' :: ' ' :: rest) = none := by
  have plain : dropModifiers (' ' :: rest) = ' ' :: rest := rfl
  rw [memberOfLine?, plain]
  rfl

/-- The line that a group begins with declares its member. -/
theorem memberOfLine?_readonly {name : Text} (identified : Naming.isIdentifier name = true) :
    memberOfLine? ("  readonly " ++ name ++ " = \x7b") = some name := by
  have dropped : dropModifiers ("readonly " ++ name ++ " = \x7b") = name ++ " = \x7b" := rfl
  have taken : (name ++ " = \x7b".toList).takeWhile Naming.isIdentifierPart = name := by
    rw [List.takeWhile_append_of_pos (Naming.isIdentifierPart_of_mem identified)]
    exact List.append_nil name
  change (match (dropModifiers ("readonly " ++ name ++ " = \x7b")).takeWhile _ with
    | [] => none
    | name => some name) = _
  rw [dropped, taken]
  cases name with
  | nil => cases identified
  | cons first rest => rfl

/-- Nothing is read from empty lines between parts. -/
theorem filterMap_separated {α : Type} {read : Text → Option α} (blank : read [] = none)
    (parts : List (List Text)) :
    (separated parts).filterMap read = parts.flatMap (·.filterMap read) := by
  fun_induction separated parts with
  | case1 => rfl
  | case2 part => simp
  | case3 part other rest ih =>
      rw [List.filterMap_append, List.filterMap_append, List.filterMap_cons_none blank, ih]
      exact (congrArg (· ++ _) (List.append_nil _)).trans List.flatMap_cons.symm

/-- The lines of a comment or a body: each goes on after four blanks, but not with a name. -/
def AreBodyLines (lines : List Text) : Prop :=
  ∀ line ∈ lines, ∃ letter rest, line = ' ' :: ' ' :: ' ' :: ' ' :: letter :: rest ∧
    Naming.isIdentifierPart letter = false

theorem AreBodyLines.append {first second : List Text} (one : AreBodyLines first)
    (other : AreBodyLines second) : AreBodyLines (first ++ second) := by
  intro line member
  rcases List.mem_append.mp member with inFirst | inSecond
  · exact one line inFirst
  · exact other line inSecond

theorem areBodyLines_comment (text : Text) : AreBodyLines [comment "    " text] := by
  intro line member
  rw [List.mem_singleton.mp member]
  unfold comment
  split <;> exact ⟨_, _, rfl, rfl⟩

theorem areBodyLines_queryLines (query : List Parameter) :
    AreBodyLines (ClientMethod.queryLines query) := by
  intro line member
  unfold ClientMethod.queryLines at member
  split at member
  · cases member
  · simp only [List.cons_append, List.mem_cons, List.mem_append, List.mem_map, List.not_mem_nil,
      or_false] at member
    rcases member with rfl | ⟨parameter, _, rfl⟩ | rfl
    · exact ⟨_, _, rfl, rfl⟩
    · unfold ClientMethod.queryLine
      dsimp only
      split <;> exact ⟨_, _, rfl, rfl⟩
    · exact ⟨_, _, rfl, rfl⟩

theorem areBodyLines_sendLines (method : ClientMethod) : AreBodyLines method.sendLines := by
  intro line member
  unfold ClientMethod.sendLines at member
  split at member
  · rcases List.mem_cons.mp member with rfl | member
    · exact ⟨_, _, rfl, rfl⟩
    · rw [List.mem_singleton.mp member]
      exact ⟨_, _, rfl, rfl⟩
  · rw [List.mem_singleton.mp member]
    exact ⟨_, _, rfl, rfl⟩

/-- One line of a method is its head; the others are those of its comment and its body. -/
theorem exists_lines_eq (method : ClientMethod) :
    ∃ before after, method.lines = before ++ method.head :: after ∧ AreBodyLines before ∧
      AreBodyLines after := by
  have commented :
      AreBodyLines (if method.comment.isEmpty then [] else [comment "    " method.comment]) := by
    split
    · exact fun _ none => nomatch none
    · exact areBodyLines_comment method.comment
  have opened : AreBodyLines
      ["      const path = " ++ pathTemplate method.pathNames method.path ++ ";"] := by
    intro line member
    rw [List.mem_singleton.mp member]
    exact ⟨_, _, rfl, rfl⟩
  have closed : AreBodyLines ["    \x7d,".toList] := by
    intro line member
    rw [List.mem_singleton.mp member]
    exact ⟨_, _, rfl, rfl⟩
  refine ⟨_, _, ?_, commented, ((opened.append (areBodyLines_queryLines method.query)).append
    (areBodyLines_sendLines method)).append closed⟩
  simp only [ClientMethod.lines, List.append_assoc, List.cons_append, List.nil_append]

theorem filterMap_of_areBodyLines {lines : List Text} (deep : AreBodyLines lines) :
    lines.filterMap memberOfLine? = [] := by
  rw [List.filterMap_eq_nil_iff]
  intro line member
  obtain ⟨letter, rest, rfl, _⟩ := deep line member
  exact memberOfLine?_deep _

/-- A method declares no member of the class. -/
theorem filterMap_methodLines (method : ClientMethod) :
    method.lines.filterMap memberOfLine? = [] := by
  obtain ⟨before, after, same, above, below⟩ := exists_lines_eq method
  have head : memberOfLine? method.head = none := memberOfLine?_deep _
  rw [same, List.filterMap_append, filterMap_of_areBodyLines above,
    List.filterMap_cons_none head, filterMap_of_areBodyLines below]
  rfl

/-- The lines inside the braces of a group declare no member of the class. -/
theorem filterMap_methodsLines (methods : List ClientMethod) :
    (separated (methods.map (·.lines)) ++ ["  \x7d;".toList]).filterMap memberOfLine? = [] := by
  have closed : ["  \x7d;".toList].filterMap memberOfLine? = [] := by decide
  rw [List.filterMap_append, closed, List.append_nil, filterMap_separated rfl,
    List.flatMap_eq_nil_iff]
  intro lines member
  obtain ⟨method, _, rfl⟩ := List.mem_map.mp member
  exact filterMap_methodLines method

/-- A group declares its member and nothing beside it. -/
theorem filterMap_groupLines {group : ClientGroup}
    (identified : Naming.isIdentifier group.name = true) :
    group.lines.filterMap memberOfLine? = [group.name] := by
  unfold ClientGroup.lines
  rw [Naming.propertyKey_of_isIdentifier identified, List.cons_append,
    List.filterMap_cons_some (memberOfLine?_readonly identified), filterMap_methodsLines]

/-! ## Members of a client -/

/-- The members of the class are those of its core and one for each group. -/
theorem members_of_clientFile {api : Api} {clientName : Text} {client : ClientFile}
    (made : ClientFile.ofApi api clientName = .ok client) :
    client.members = coreMembers ++ api.groupNames.map Naming.group := by
  have blank : [([] : Text)].filterMap memberOfLine? = [] := rfl
  have named : ∀ group ∈ client.groups, group.lines.filterMap memberOfLine? = [group.name] := by
    rw [groups_of_clientFile made]
    intro group member
    obtain ⟨_, _, rfl⟩ := List.mem_map.mp member
    exact filterMap_groupLines (Naming.isIdentifier_camel _)
  have names : client.groups.map (·.name) = api.groupNames.map Naming.group := by
    rw [groups_of_clientFile made, Api.groups, List.map_map, List.map_map]
    rfl
  unfold ClientFile.members ClientFile.classLines
  rw [List.filterMap_append, List.filterMap_append, filterMap_coreLines, blank, List.append_nil,
    filterMap_separated rfl, List.flatMap_map, ← names]
  congr 1
  exact (List.flatMap_congr named).trans List.map_eq_flatMap.symm

theorem groupMembers_nodup {api : Api} {clientName : Text} {client : ClientFile}
    (made : ClientFile.ofApi api clientName = .ok client) :
    (api.groupNames.map Naming.group).Nodup := by
  obtain ⟨_, assigned, _⟩ := Success.of_bind made
  exact List.Nodup.map_on (fun first inFirst second inSecond same =>
    Naming.assign_injective assigned inFirst inSecond same) (Text.distinct_nodup _)

/-- The members of the class of a client are distinct exactly if no group has the name of a member
that every class has. -/
theorem members_nodup_iff_of_clientFile {api : Api} {clientName : Text} {client : ClientFile}
    (made : ClientFile.ofApi api clientName = .ok client) :
    client.members = coreMembers ++ api.groupNames.map Naming.group ∧
      (client.members.Nodup ↔ ∀ tag ∈ api.groupNames, Naming.group tag ∉ coreMembers) := by
  have core : coreMembers.Nodup := by decide
  have members := members_of_clientFile made
  refine ⟨members, ?_⟩
  rw [members, List.nodup_append]
  constructor
  · rintro ⟨_, _, apart⟩ tag listed taken
    exact apart _ taken _ (List.mem_map.mpr ⟨tag, listed, rfl⟩) rfl
  · intro free
    refine ⟨core, groupMembers_nodup made, ?_⟩
    rintro member taken other ofGroup rfl
    obtain ⟨tag, listed, rfl⟩ := List.mem_map.mp ofGroup
    exact free tag listed taken

/-- An API with one operation, which has one tag. -/
def taggedApi (tag : Text) : Api where
  title := "Tags"
  version := "1"
  description := none
  baseUrl := none
  operations := [{
    identifier := "listAll", method := .get, path := "/all", summary := none, description := none
    tags := [tag], parameters := [], body := none, responses := [], deprecated := false }]
  schemas := []
  tags := []

theorem members_nodup_iff_of_taggedApi :
    ∃ client, ClientFile.ofApi (taggedApi "pet-store") "TestClient" = .ok client ∧
      client.members =
        ["baseUrl".toList, "headers".toList, "constructor".toList, "request".toList,
          "petStore".toList] ∧
      client.members.Nodup := by
  refine ⟨_, rfl, ?_⟩
  obtain ⟨members, distinct⟩ := members_nodup_iff_of_clientFile
    (show ClientFile.ofApi (taggedApi "pet-store") "TestClient" = .ok _ from rfl)
  exact ⟨members.trans (by decide), distinct.mpr (by decide)⟩

/-- A group can take the name of the member that sends requests. -/
theorem not_members_nodup_of_request :
    ∃ client, ClientFile.ofApi (taggedApi "request") "TestClient" = .ok client ∧
      ¬ client.members.Nodup := by
  have made : ClientFile.ofApi (taggedApi "request") "TestClient" = .ok _ := rfl
  refine ⟨_, made, ?_⟩
  rw [members_of_clientFile made]
  decide

end ApiForge.TypeScript
