import ApiForge.Proofs.Artifacts.OperationPaths
import ApiForge.Proofs.Text.Pieces
import ApiForge.Proofs.TypeScript.ReservedNames

/-!
# The call of the quick start

The page shows how to call the first operation that reads and takes no
parameters. The class has a method under the path of this call. What a method
wants is read off the line that begins it: an argument may be left out if it has
a mark or a default. The call passes nothing, so it is accepted exactly if the
operation has no body that is required.
-/

namespace ApiForge.TypeScript

/-! ## Lines that begin methods -/

/-- The line of the class begins the method of this path: it names the method and stands where the
member is open. -/
structure ClientFile.Begins (file : ClientFile) (path : MethodPath) (line : Text) : Prop where
  placed : ∃ before after, file.classLines = before ++ line :: after ∧
    openAfter [] before = path.member
  named : methodOfLine? line = some path.method

theorem openAfter_append (member : Text) (first second : List Text) :
    openAfter member (first ++ second) = openAfter (openAfter member first) second :=
  List.foldl_append

/-- Lines that declare no member leave the same one open. -/
theorem openAfter_of_inside {lines : List Text} (inside : lines.filterMap memberOfLine? = [])
    (member : Text) : openAfter member lines = member := by
  induction lines with
  | nil => rfl
  | cons line rest ih =>
      rw [List.filterMap_eq_nil_iff] at inside
      have others := ih (List.filterMap_eq_nil_iff.mpr fun other inRest =>
        inside other (List.mem_cons_of_mem line inRest))
      rw [openAfter, List.foldl_cons, inside line List.mem_cons_self]
      exact others

theorem exists_separated_eq {parts : List (List Text)} {part : List Text} (member : part ∈ parts) :
    ∃ before after, separated parts = before ++ (part ++ after) := by
  fun_induction separated parts with
  | case1 => cases member
  | case2 only =>
      rw [List.mem_singleton.mp member]
      exact ⟨[], [], (List.append_nil only).symm⟩
  | case3 first other rest ih =>
      rcases List.mem_cons.mp member with rfl | inRest
      · exact ⟨[], [[]] ++ separated (other :: rest), List.append_assoc ..⟩
      · obtain ⟨before, after, same⟩ := ih inRest
        refine ⟨first ++ [[]] ++ before, after, ?_⟩
        rw [same, List.append_assoc, List.append_assoc, List.append_assoc]

/-- The head of each method stands in the member of its group. -/
theorem begins_of_mem {file : ClientFile} {group : ClientGroup} {method : ClientMethod}
    (identified : Naming.isIdentifier group.name = true) (listed : group ∈ file.groups)
    (named : Naming.isIdentifier method.name = true) (member : method ∈ group.methods) :
    file.Begins ⟨group.name, method.name⟩ method.head := by
  obtain ⟨above, below, inMethod, _, _⟩ := exists_lines_eq method
  obtain ⟨earlier, later, inGroup⟩ :=
    exists_separated_eq (List.mem_map_of_mem (f := ClientMethod.lines) member)
  obtain ⟨before, after, inClass⟩ :=
    exists_separated_eq (List.mem_map_of_mem (f := ClientGroup.lines) listed)
  have inside : (earlier ++ above).filterMap memberOfLine? = [] := by
    have all := filterMap_methodsLines group.methods
    rw [inGroup, inMethod] at all
    simp only [List.filterMap_append, List.append_eq_nil_iff] at all ⊢
    exact ⟨all.1.1, all.1.2.1.1⟩
  refine ⟨⟨coreLines ++ [[]] ++ before ++
      ("  readonly " ++ Naming.propertyKey group.name ++ " = \x7b") :: (earlier ++ above),
    below ++ later ++ ["  \x7d;".toList] ++ after, ?_, ?_⟩, methodOfLine?_head named⟩
  · rw [ClientFile.classLines, inClass, ClientGroup.lines, inGroup, inMethod]
    simp only [List.append_assoc, List.cons_append]
  · rw [openAfter_append, openAfter, List.foldl_cons,
      Naming.propertyKey_of_isIdentifier identified, memberOfLine?_readonly identified]
    exact openAfter_of_inside inside group.name

theorem begins_of_operation {api : Api} {clientName : Text} {client : ClientFile}
    (made : ClientFile.ofApi api clientName = .ok client) {operation : Operation}
    (member : operation ∈ api.operations) :
    client.Begins (MethodPath.ofOperation operation) (ClientMethod.ofOperation operation).head := by
  obtain ⟨group, listed, inGroup⟩ :=
    List.mem_flatMap.mp (api.isGrouping.complete.mem_iff.mpr member)
  have inFile : ⟨Naming.group group.1, group.2.map .ofOperation⟩ ∈ client.groups := by
    rw [groups_of_clientFile made]
    exact List.mem_map_of_mem listed
  have placed := begins_of_mem (Naming.isIdentifier_camel group.1) inFile
    (Naming.isIdentifier_camel operation.identifier) (List.mem_map_of_mem inGroup)
  rw [MethodPath.ofOperation, Api.group_of_mem listed inGroup]
  exact placed

/-! ## Arguments of a line -/

/-- The arguments in a line that begins a method. -/
def argumentsOfLine (line : Text) : List Text :=
  let between := ((line.dropWhile (· != '(')).drop 1).takeWhile (· != ')')
  (List.splitOn ',' between).filter (!·.isEmpty)

/-- A call may leave the argument out: it has a mark or a default. -/
def mayLeaveOut (argument : Text) : Bool :=
  argument.contains '?' || argument.contains '='

/-- A call that passes nothing is accepted by the method that the line begins. -/
def acceptsNothing (line : Text) : Bool :=
  (argumentsOfLine line).all mayLeaveOut

theorem mayLeaveOut_blank (text : Text) : mayLeaveOut (' ' :: text) = mayLeaveOut text := by
  simp [mayLeaveOut]

/-- The arguments after the first one stand after a space. -/
theorem splitOn_join (first : Text) (rest : List Text)
    (plain : ∀ argument ∈ first :: rest, ',' ∉ argument) :
    List.splitOn ',' (Text.join ", " (first :: rest)) = first :: rest.map (' ' :: ·) := by
  have spaced : ∀ part ∈ rest.map (' ' :: ·), ',' ∉ part := by
    intro part member
    obtain ⟨argument, given, rfl⟩ := List.mem_map.mp member
    rw [List.mem_cons, not_or]
    exact ⟨by decide, plain argument (List.mem_cons_of_mem _ given)⟩
  calc List.splitOn ',' (Text.join ", " (first :: rest))
    _ = List.splitOn ',' first ++ rest.flatMap fun part => List.splitOn ',' (" " ++ part) :=
      Text.splitOn_join " " first rest
    _ = first :: (rest.map (' ' :: ·)).flatMap (List.splitOn ',') := by
      rw [List.splitOn_eq_singleton (plain first List.mem_cons_self), List.flatMap_map]
      rfl
    _ = first :: rest.map (' ' :: ·) := by rw [Text.flatMap_splitOn_of_not_mem spaced]

/-- The text is that of one argument, which may be left out as said. -/
structure IsArgument (text : Text) (mayOmit : Bool) : Prop where
  filled : text ≠ []
  comma : ',' ∉ text
  bracket : ')' ∉ text
  marked : mayLeaveOut text = mayOmit

/-- A name between two texts makes up an argument that is marked in one of the texts, if at all. -/
theorem isArgument_between {opening type closing : Text}
    (identified : Naming.isIdentifier type = true) (filled : opening ≠ [])
    (comma : ',' ∉ opening ++ closing) (bracket : ')' ∉ opening ++ closing) :
    IsArgument (opening ++ type ++ closing) (mayLeaveOut (opening ++ closing)) := by
  have around {letter : Char} (other : Naming.isIdentifierPart letter = false) :
      letter ∈ opening ++ type ++ closing ↔ letter ∈ opening ++ closing := by
    have unmet := Naming.not_mem_of_isIdentifier identified other
    rw [List.mem_append, List.mem_append, List.mem_append, or_iff_left unmet]
  refine ⟨List.append_ne_nil_of_left_ne_nil (List.append_ne_nil_of_left_ne_nil filled _) _,
    mt (around (by decide)).mp comma, mt (around (by decide)).mp bracket, ?_⟩
  rw [mayLeaveOut, mayLeaveOut, Bool.eq_iff_iff, Bool.or_eq_true, Bool.or_eq_true,
    List.contains_iff_mem, List.contains_iff_mem, List.contains_iff_mem, List.contains_iff_mem,
    around (by decide), around (by decide)]

theorem isArgument_paramsText {argument : Argument}
    (identified : Naming.isIdentifier argument.type = true) :
    IsArgument (ClientMethod.paramsText argument) argument.mayOmit := by
  have around : ∀ mayOmit : Bool,
      let closing : Text := if mayOmit then " = \x7b\x7d" else []
      ',' ∉ "params: ".toList ++ closing ∧ ')' ∉ "params: ".toList ++ closing ∧
        mayLeaveOut ("params: ".toList ++ closing) = mayOmit := by decide
  obtain ⟨comma, bracket, marked⟩ := around argument.mayOmit
  have made := isArgument_between identified (by decide) comma bracket
  rwa [marked] at made

theorem isArgument_bodyText {argument : Argument}
    (identified : Naming.isIdentifier argument.type = true) :
    IsArgument (ClientMethod.bodyText argument) argument.mayOmit := by
  have around : ∀ mayOmit : Bool,
      let mark : Text := if mayOmit then "?" else []
      let opening : Text := "body" ++ mark ++ ": "
      opening ≠ [] ∧ ',' ∉ opening ++ [] ∧ ')' ∉ opening ++ [] ∧
        mayLeaveOut (opening ++ []) = mayOmit := by decide
  obtain ⟨filled, comma, bracket, marked⟩ := around argument.mayOmit
  have made := isArgument_between identified filled comma bracket
  rw [marked, List.append_nil] at made
  exact made

/-- What a line asks for is what the arguments ask for that it is made from. -/
theorem acceptsNothing_join {before after : Text} (unopened : '(' ∉ before)
    {arguments : List (Text × Bool)}
    (plain : ∀ argument ∈ arguments, IsArgument argument.1 argument.2) :
    acceptsNothing (before ++ '(' :: (Text.join ", " (arguments.map (·.1)) ++ ')' :: after)) =
      arguments.all (·.2) := by
  have noBracket : ∀ letter ∈ Text.join ", " (arguments.map (·.1)), (letter != ')') = true := by
    rintro letter member
    rw [bne_iff_ne]
    rintro rfl
    rcases Text.exists_of_mem_join member with between | ⟨text, listed, inText⟩
    · exact absurd between (by decide)
    · obtain ⟨argument, given, rfl⟩ := List.mem_map.mp listed
      exact (plain argument given).bracket inText
  have noOpening : ∀ letter ∈ before, (letter != '(') = true := fun letter member =>
    bne_iff_ne.mpr fun same => unopened (same ▸ member)
  let asked := Text.join ", " (arguments.map (·.1))
  have opened : (before ++ '(' :: (asked ++ ')' :: after)).dropWhile (· != '(') =
      '(' :: (asked ++ ')' :: after) :=
    (Text.takeWhile_append_of_stops noOpening (by simp)).2
  have closed : (asked ++ ')' :: after).takeWhile (· != ')') = asked :=
    (Text.takeWhile_append_of_stops noBracket (by simp)).1
  unfold acceptsNothing argumentsOfLine
  rw [opened, List.drop_one, List.tail_cons, closed]
  cases arguments with
  | nil => rfl
  | cons first rest =>
      have texts : ∀ text ∈ first.1 :: rest.map (·.1), text ≠ [] ∧ ',' ∉ text := by
        intro text member
        obtain ⟨argument, given, rfl⟩ := List.mem_map.mp (List.map_cons ▸ member)
        exact ⟨(plain argument given).filled, (plain argument given).comma⟩
      have kept : ∀ text ∈ first.1 :: (rest.map (·.1)).map (' ' :: ·), (!text.isEmpty) = true := by
        simp only [List.mem_cons, List.mem_map]
        rintro text (rfl | ⟨_, _, rfl⟩)
        · simpa using (texts first.1 List.mem_cons_self).1
        · rfl
      change ((List.splitOn ',' (Text.join ", " (first.1 :: rest.map (·.1)))).filter _).all _ = _
      rw [splitOn_join _ _ fun text member => (texts text member).2, List.filter_eq_self.mpr kept,
        List.all_cons, List.all_cons, (plain first List.mem_cons_self).marked, List.map_map,
        List.all_map]
      congr 1
      rw [Bool.eq_iff_iff, List.all_eq_true, List.all_eq_true]
      refine forall₂_congr fun argument member => ?_
      rw [← (plain argument (List.mem_cons_of_mem first member)).marked, ← mayLeaveOut_blank]
      rfl

theorem head_eq (method : ClientMethod) :
    method.head = ("    " ++ method.name ++ ": async ") ++
      '(' :: (Text.join ", " ((method.params.map ClientMethod.paramsText).toList ++
          (method.body.map ClientMethod.bodyText).toList) ++
        ')' :: (": Promise<" ++ method.response ++ "> => \x7b")) := by
  have opening : ": async (".toList = ": async ".toList ++ ['('] := by decide
  have closing : "): Promise<".toList = [')'] ++ ": Promise<".toList := by decide
  unfold ClientMethod.head
  dsimp only
  generalize Text.join ", " ((method.params.map ClientMethod.paramsText).toList ++
    (method.body.map ClientMethod.bodyText).toList) = asked
  rw [opening, closing]
  simp only [List.append_assoc, List.cons_append, List.nil_append]

/-- A method accepts a call that passes nothing if each of its arguments may be left out. -/
theorem acceptsNothing_head {method : ClientMethod}
    (named : Naming.isIdentifier method.name = true)
    (params : ∀ argument ∈ method.params, Naming.isIdentifier argument.type = true)
    (body : ∀ argument ∈ method.body, Naming.isIdentifier argument.type = true) :
    acceptsNothing method.head = true ↔
      (∀ argument ∈ method.params, argument.mayOmit = true) ∧
        ∀ argument ∈ method.body, argument.mayOmit = true := by
  let arguments :=
    (method.params.map fun given => (ClientMethod.paramsText given, given.mayOmit)).toList ++
      (method.body.map fun given => (ClientMethod.bodyText given, given.mayOmit)).toList
  have plain : ∀ argument ∈ arguments, IsArgument argument.1 argument.2 := by
    simp only [arguments, List.mem_append, Option.mem_toList, Option.map_eq_some_iff]
    rintro argument (⟨given, isGiven, rfl⟩ | ⟨given, isGiven, rfl⟩)
    · exact isArgument_paramsText (params given isGiven)
    · exact isArgument_bodyText (body given isGiven)
  let before : Text := "    " ++ method.name ++ ": async "
  let after : Text := ": Promise<" ++ method.response ++ "> => \x7b"
  have unopened : '(' ∉ before := by
    have unnamed : '(' ∉ method.name := Naming.not_mem_of_isIdentifier named (by decide)
    rw [List.mem_append, List.mem_append, or_iff_left unnamed, ← List.mem_append]
    decide
  have texts : arguments.map (·.1) = (method.params.map ClientMethod.paramsText).toList ++
      (method.body.map ClientMethod.bodyText).toList := by
    rw [List.map_append, ← Option.toList_map, ← Option.toList_map, Option.map_map, Option.map_map]
    rfl
  have head : method.head =
      before ++ '(' :: (Text.join ", " (arguments.map (·.1)) ++ ')' :: after) :=
    texts ▸ head_eq method
  rw [head, acceptsNothing_join unopened plain, List.all_append]
  cases method.params <;> cases method.body <;> simp

/-- The method of an operation accepts a call that passes nothing if no parameter in the path or the
query is required, and no body is. -/
theorem acceptsNothing_head_ofOperation (operation : Operation) :
    acceptsNothing (ClientMethod.ofOperation operation).head = true ↔
      (∀ field ∈ operation.fields, field.required = false) ∧
        ∀ body ∈ operation.body, body.required = false := by
  have identified : ∀ suffix ∈ suffixes,
      Naming.isIdentifier (Naming.operationType operation.identifier suffix) = true := by
    have parts : ∀ suffix ∈ suffixes, suffix.all Naming.isIdentifierPart = true := by decide
    exact fun suffix listed =>
      isIdentifier_append (Naming.isIdentifier_pascal operation.identifier) (parts suffix listed)
  have params : ∀ argument ∈ ClientMethod.paramsOf operation,
      Naming.isIdentifier argument.type = true := by
    rintro argument given
    obtain ⟨type, typed, rfl⟩ := Option.map_eq_some_iff.mp given
    rw [paramsType?] at typed
    split at typed
    · cases typed
    · cases typed
      exact identified Naming.paramsSuffix (by decide)
  have body : ∀ argument ∈ ClientMethod.bodyOf operation,
      Naming.isIdentifier argument.type = true := by
    rintro argument given
    obtain ⟨_, _, rfl⟩ := Option.map_eq_some_iff.mp given
    exact identified Naming.requestSuffix (by decide)
  rw [acceptsNothing_head (Naming.isIdentifier_camel operation.identifier) params body]
  refine and_congr ?_ ?_
  · change (∀ argument ∈ ClientMethod.paramsOf operation, _) ↔ _
    rw [ClientMethod.paramsOf, paramsType?]
    cases operation.fields <;> simp
  · change (∀ argument ∈ ClientMethod.bodyOf operation, _) ↔ _
    rw [ClientMethod.bodyOf]
    cases operation.body <;> simp

end ApiForge.TypeScript

namespace ApiForge.Artifacts

open ApiForge.TypeScript (ClientFile ClientMethod MethodPath acceptsNothing)

/-- The line of the page that calls an operation. -/
def quickStartLine (operation : Operation) : Text :=
  "const result = await " ++ (pathCall operation ++ "()") ++ ";"

/-- The operation of the quick start is one of the API; it reads and takes no parameters. -/
theorem quickStartOperation_of_page {api : Api} {clientName : Text} {page : Markdown.Page}
    {start : Markdown.QuickStart} (paged : Markdown.Page.ofApi api clientName = .ok page)
    (started : page.quickStart = some start) :
    ∃ operation ∈ api.operations, operation.method = .get ∧ operation.parameters = [] ∧
      start = Markdown.quickStartOf operation := by
  rw [quickStart_of_page paged] at started
  obtain ⟨operation, found, rfl⟩ := Option.map_eq_some_iff.mp started
  have chosen := List.find?_some found
  rw [Bool.and_eq_true, beq_iff_eq, List.isEmpty_iff] at chosen
  exact ⟨operation, List.mem_of_find?_eq_some found, chosen.1, chosen.2, rfl⟩

theorem quickStartLine_mem_pageLines {page : Markdown.Page} {operation : Operation}
    (started : page.quickStart = some (Markdown.quickStartOf operation)) :
    quickStartLine operation ∈ Markdown.pageLines page := by
  have printed : quickStartLine operation ∈ Markdown.quickStartLines page.quickStart := by
    rw [started, Markdown.quickStartLines, Markdown.quickStartOf, callOf_eq_pathCall]
    exact List.mem_cons_of_mem _ (List.mem_cons_of_mem _ List.mem_cons_self)
  have used : quickStartLine operation ∈ Markdown.usage page := by
    unfold Markdown.usage
    exact List.mem_append_left _ (List.mem_append_right _ printed)
  unfold Markdown.pageLines
  simp only [List.mem_append, used, or_true, true_or]

theorem count_methodPath {api : Api} {clientName : Text} {client : ClientFile}
    (made : ClientFile.ofApi api clientName = .ok client)
    (distinct : (api.operations.map fun operation => Naming.pascal operation.identifier).Nodup)
    {operation : Operation} (member : operation ∈ api.operations) :
    client.methodPaths.count (MethodPath.ofOperation operation) = 1 := by
  have grouped := api.isGrouping.complete
  rw [TypeScript.methodPaths_of_clientFile made]
  refine List.count_eq_one_of_mem (TypeScript.map_methodPath_nodup ?_)
    (List.mem_map_of_mem (grouped.mem_iff.mpr member))
  exact ((grouped.map fun operation => Naming.pascal operation.identifier).nodup_iff).mpr distinct

/-- Where the page prints a call, the client has the method under this path, and only one if the
identifiers of the operations differ in Pascal form. The method accepts the call exactly if the
operation has no body that is required. -/
theorem quickStart_isAccepted_iff {api : Api} {clientName : Text} {client : ClientFile}
    {page : Markdown.Page} {start : Markdown.QuickStart}
    (made : ClientFile.ofApi api clientName = .ok client)
    (paged : Markdown.Page.ofApi api clientName = .ok page)
    (started : page.quickStart = some start) :
    ∃ operation ∈ api.operations, operation.method = .get ∧ operation.parameters = [] ∧
      quickStartLine operation ∈ Markdown.pageLines page ∧
      client.Begins (MethodPath.ofOperation operation)
        (ClientMethod.ofOperation operation).head ∧
      ((api.operations.map fun operation => Naming.pascal operation.identifier).Nodup →
        client.methodPaths.count (MethodPath.ofOperation operation) = 1) ∧
      (acceptsNothing (ClientMethod.ofOperation operation).head = true ↔
        ∀ body ∈ operation.body, body.required = false) := by
  obtain ⟨operation, member, reads, bare, rfl⟩ := quickStartOperation_of_page paged started
  have unfielded : ∀ field ∈ operation.fields, field.required = false := by
    rw [Operation.fields, bare]
    nofun
  exact ⟨operation, member, reads, bare, quickStartLine_mem_pageLines started,
    TypeScript.begins_of_operation made member, fun distinct => count_methodPath made distinct member,
    (TypeScript.acceptsNothing_head_ofOperation operation).trans (and_iff_right unfielded)⟩

/-- A description of two operations that read. The second takes no parameters, but a body. -/
def songsDocument (required : Bool) : Value :=
  let operation (identifier : Text) (more : List (Scalar × Value)) : Value :=
    .map [(.str "get", .map ((.str "operationId", .str identifier) ::
      (.str "tags", .list [.str "music".toList]) :: (.str "responses", .map []) :: more))]
  .map [
    (.str "openapi", .str "3.0.0".toList),
    (.str "paths", .map [
      (.str "/songs/\x7bid\x7d", operation "getSong" [(.str "parameters", .list [.map [
        (.str "name", .str "id".toList), (.str "in", .str "path".toList),
        (.str "required", .bool true)]])]),
      (.str "/songs", operation "listSongs" [(.str "requestBody", .map [
        (.str "required", .bool required),
        (.str "content", .map [(.str "application/json", .map [])])])])])]

/-- The line that begins the method of the second operation. -/
def songsHead (required : Bool) : Text :=
  let mark : Text := if required then [] else "?"
  "    listSongs: async (body" ++ mark ++ ": ListSongsRequest): Promise<ListSongsResponse> => \x7b"

/-- The description is imported, the client and the page can be made, and the page shows how to call
the second operation. -/
theorem exists_songs (required : Bool) :
    ∃ api client page operation,
      Import.apiOf (songsDocument required) none = .ok api ∧
      ClientFile.ofApi api "SongClient" = .ok client ∧
      Markdown.Page.ofApi api "SongClient" = .ok page ∧
      page.quickStart = some (Markdown.quickStartOf operation) ∧
      operation ∈ api.operations ∧
      MethodPath.ofOperation operation = ⟨"music", "listSongs"⟩ ∧
      (ClientMethod.ofOperation operation).head = songsHead required ∧
      (api.operations.map fun operation => Naming.pascal operation.identifier).Nodup := by
  have evaluated :
      ((Import.apiOf (songsDocument required) none).toOption.bind fun api =>
        (Markdown.quickStartOperation? api).map fun operation =>
          ((ClientFile.ofApi api "SongClient").toOption.isSome &&
              (Markdown.Page.ofApi api "SongClient").toOption.isSome,
            MethodPath.ofOperation operation, (ClientMethod.ofOperation operation).head,
            api.operations.map fun operation => Naming.pascal operation.identifier)) =
        some (true, MethodPath.mk "music" "listSongs", songsHead required,
          ["GetSong".toList, "ListSongs"]) := by
    cases required <;> decide +kernel
  obtain ⟨api, imported, chosen⟩ := Option.bind_eq_some_iff.mp evaluated
  obtain ⟨operation, found, read⟩ := Option.map_eq_some_iff.mp chosen
  simp only [Prod.mk.injEq, Bool.and_eq_true] at read
  obtain ⟨⟨made, paged⟩, path, head, identifiers⟩ := read
  obtain ⟨client, made⟩ := Option.isSome_iff_exists.mp made
  obtain ⟨page, paged⟩ := Option.isSome_iff_exists.mp paged
  replace paged := Success.of_toOption paged
  refine ⟨api, client, page, operation, Success.of_toOption imported, Success.of_toOption made,
    paged, ?_, List.mem_of_find?_eq_some found, path, head, ?_⟩
  · rw [quickStart_of_page paged, found, Option.map_some]
  · rw [identifiers]
    decide

/-- The client has a method for the printed call, also where the operation has a body. -/
theorem quickStart_isAccepted_of_songs :
    ∃ api client page start, Import.apiOf (songsDocument false) none = .ok api ∧
      ClientFile.ofApi api "SongClient" = .ok client ∧
      Markdown.Page.ofApi api "SongClient" = .ok page ∧ page.quickStart = some start ∧
      ∃ operation ∈ api.operations, operation.method = .get ∧ operation.parameters = [] ∧
        quickStartLine operation ∈ Markdown.pageLines page ∧
        client.Begins (MethodPath.ofOperation operation)
          (ClientMethod.ofOperation operation).head ∧
        ((api.operations.map fun operation => Naming.pascal operation.identifier).Nodup →
          client.methodPaths.count (MethodPath.ofOperation operation) = 1) ∧
        (acceptsNothing (ClientMethod.ofOperation operation).head = true ↔
          ∀ body ∈ operation.body, body.required = false) := by
  obtain ⟨api, client, page, _, imported, made, paged, started, _⟩ := exists_songs false
  exact ⟨api, client, page, _, imported, made, paged, started,
    quickStart_isAccepted_iff made paged started⟩

/-- Where the body is required, the page still calls the method with nothing, and the method does not
accept that. -/
theorem not_acceptsNothing_of_songs :
    ∃ api client page, Import.apiOf (songsDocument true) none = .ok api ∧
      ClientFile.ofApi api "SongClient" = .ok client ∧
      Markdown.Page.ofApi api "SongClient" = .ok page ∧
      "const result = await api.music.listSongs();".toList ∈ Markdown.pageLines page ∧
      client.Begins ⟨"music", "listSongs"⟩ (songsHead true) ∧
      client.methodPaths.count ⟨"music", "listSongs"⟩ = 1 ∧
      acceptsNothing (songsHead true) = false := by
  obtain ⟨api, client, page, operation, imported, made, paged, started, member, path, head,
    distinct⟩ := exists_songs true
  have spelled : "const result = await ".toList ++
      ("api." ++ (MethodPath.mk "music" "listSongs").spell ++ "()") ++ ";" =
        "const result = await api.music.listSongs();" := by decide
  have printed : quickStartLine operation = "const result = await api.music.listSongs();" := by
    unfold quickStartLine pathCall
    exact path ▸ spelled
  exact ⟨api, client, page, imported, made, paged, printed ▸ quickStartLine_mem_pageLines started,
    path ▸ head ▸ TypeScript.begins_of_operation made member,
    path ▸ count_methodPath made distinct member, by decide⟩

end ApiForge.Artifacts
