import ApiForge.Proofs.Json.UnitEscapes
import ApiForge.Proofs.Naming.Forms
import ApiForge.Proofs.TypeScript.CommentMarks
import ApiForge.Proofs.TypeScript.TypeMeanings
import ApiForge.TypeScript.TypeExpr

/-!
# Reading types

The text of a type is read with the precedence of the language: bars part the
members of a union, and the marks of a list belong to the one member right
before them. Comments and blanks between the fields of an object are passed
over. The type of a schema is read as its meaning.
-/

namespace ApiForge.TypeScript.TypeMeaning

/-! ## Words and keys -/

/-- The word that a text starts with, with a line feed right after it, and what follows. -/
def wordAt (text : Text) : Text × Text :=
  let word := text.takeWhile Naming.isIdentifierPart
  match text.dropWhile Naming.isIdentifierPart with
  | '\n' :: rest => (word ++ ['\n'], rest)
  | rest => (word, rest)

/-- The name between the quotes of a key, read after the opening one, and what follows the closing
one. A backslash stands before letters that then stand for themselves. -/
def quotedName? : Text → Option (Text × Text)
  | [] => none
  | '"' :: rest => some ([], rest)
  | '\\' :: letter :: rest => do
      let (name, after) ← quotedName? rest
      pure (letter :: name, after)
  | letter :: rest => do
      let (name, after) ← quotedName? rest
      pure (letter :: name, after)

/-- The name of a key and what follows. -/
def key? : Text → Option (Text × Text)
  | '"' :: rest => quotedName? rest
  | text => some (wordAt text)

/-- A name does not go on with the text. -/
def EndsName (rest : Text) : Prop :=
  ∀ letter ∈ rest.head?, Naming.isIdentifierPart letter = false ∧ letter ≠ '\n' ∧ letter ≠ '<'

theorem endsName_cons {letter : Char} {rest : Text}
    (ends : Naming.isIdentifierPart letter = false ∧ letter ≠ '\n' ∧ letter ≠ '<') :
    EndsName (letter :: rest) := by
  intro first begins
  rwa [← Option.some.inj begins]

theorem wordAt_append {name rest : Text} (plain : Naming.isPlain name = true)
    (ends : EndsName rest) : wordAt (name ++ rest) = (name, rest) := by
  obtain ⟨word, identified, rfl | rfl⟩ := Naming.isPlain_iff.mp plain
  · obtain ⟨taken, dropped⟩ := Text.takeWhile_append_of_stops
      (Naming.isIdentifierPart_of_mem identified) fun letter first => (ends letter first).1
    rw [wordAt, taken, dropped]
    cases rest with
    | nil => rfl
    | cons letter others => simp [(ends letter rfl).2.1]
  · have stops : ∀ letter ∈ (['\n'] ++ rest).head?, Naming.isIdentifierPart letter = false := by
      intro letter first
      rw [← Option.some.inj first]
      decide
    obtain ⟨taken, dropped⟩ := Text.takeWhile_append_of_stops
      (Naming.isIdentifierPart_of_mem identified) stops
    rw [List.append_assoc, wordAt, taken, dropped]
    rfl

/-- A name that is used as it is begins with a letter of a word. -/
theorem exists_cons_of_isPlain {name : Text} (plain : Naming.isPlain name = true) :
    ∃ first rest, name = first :: rest ∧ Naming.isIdentifierPart first = true := by
  obtain ⟨word, identified, same⟩ := Naming.isPlain_iff.mp plain
  cases word with
  | nil => cases identified
  | cons first others =>
      have part := Naming.isIdentifierPart_of_mem identified first List.mem_cons_self
      rcases same with rfl | rfl
      · exact ⟨first, others, rfl, part⟩
      · exact ⟨first, others ++ ['\n'], rfl, part⟩

theorem quotedName?_keyBody (name rest : Text) :
    quotedName? (Naming.keyBody name ++ '"' :: rest) = some (name, rest) := by
  induction name with
  | nil => rfl
  | cons letter others ih =>
      rw [Naming.keyBody_cons]
      split
      · rw [List.cons_append, List.cons_append, quotedName?, ih]
        rfl
      · next plain =>
          rw [not_or] at plain
          rw [List.cons_append, quotedName?, ih]
          · rfl
          · exact plain.2
          · exact fun _ _ same => absurd same plain.1

/-- The key of a name is read as the name. -/
theorem key?_append (name : Text) {rest : Text} (ends : EndsName rest) :
    key? (Naming.propertyKey name ++ rest) = some (name, rest) := by
  unfold Naming.propertyKey
  split
  · next plain =>
      obtain ⟨first, others, same, part⟩ := exists_cons_of_isPlain plain
      have unquoted : first ≠ '"' := by
        rintro rfl
        revert part
        decide
      rw [key?, wordAt_append plain ends]
      rintro after begins
      rw [same] at begins
      exact unquoted (List.cons.inj begins).1
  · rw [Naming.quotedKey_eq, List.cons_append, List.append_assoc, key?]
    exact quotedName?_keyBody name rest

/-! ## Types -/

/-- A member by itself. A literal is a union, too. -/
def alone : TypeMeaning → TypeMeaning
  | .literal value => .union [.literal value]
  | member => member

/-- The type with the members between its bars. -/
def ofMembers : List TypeMeaning → TypeMeaning
  | [member] => member.alone
  | members => .union members

/-- The member of a union with the list marks after it, and what follows. -/
def marked (member : TypeMeaning) : Text → TypeMeaning × Text
  | '[' :: ']' :: rest => marked (.list member.alone) rest
  | rest => (member, rest)

/-- What may stand between the fields of an object beside comments. -/
def isGap (letter : Char) : Bool :=
  letter == ' ' || letter == '\n'

mutual

/-- The members of a union, of which there is at least one, and what follows. `fuel` bounds the
letters that are read. -/
def members? : Nat → Text → Option (List TypeMeaning × Text)
  | 0, _ => none
  | fuel + 1, text => do
      let (member, rest) ← member? fuel text
      match Text.afterStart? " | " rest with
      | none => pure ([member], rest)
      | some rest => do
          let (others, rest) ← members? fuel rest
          pure (member :: others, rest)
  termination_by structural fuel => fuel

/-- A type that is not a union by itself, with its list marks, and what follows. -/
def member? : Nat → Text → Option (TypeMeaning × Text)
  | 0, _ => none
  | fuel + 1, text =>
      match text with
      | '"' :: rest => do
          let (units, rest) ← Json.literalUnits? rest
          pure (marked (.literal (Text.ofUnits units)) rest)
      | '(' :: rest => do
          let (members, rest) ← members? fuel rest
          let rest ← Text.afterStart? ")" rest
          pure (marked (ofMembers members) rest)
      | '\x7b' :: rest => do
          let (fields, rest) ← fields? fuel rest
          pure (marked (.object fields) rest)
      | text =>
          let (name, rest) := wordAt text
          match Text.afterStart? "<string, " rest with
          | none => some (marked (.named name) rest)
          | some rest => do
              let (members, rest) ← members? fuel rest
              let rest ← Text.afterStart? ">" rest
              if name = "Record".toList then pure (marked (.record (ofMembers members)) rest)
              else none
  termination_by structural fuel => fuel

/-- The fields of an object up to its closing brace, and what follows. -/
def fields? : Nat → Text → Option (List (Field TypeMeaning) × Text)
  | 0, _ => none
  | fuel + 1, text =>
      let text := text.dropWhile isGap
      match Text.afterStart? ['\x7d'] text with
      | some rest => some ([], rest)
      | none =>
          match Text.afterStart? ['/', '*'] text with
          | some rest => do
              let rest ← afterMark? rest
              fields? fuel rest
          | none => do
              let (name, rest) ← key? text
              let mark := Text.afterStart? ['?'] rest
              let rest ← Text.afterStart? ": " (mark.getD rest)
              let (members, rest) ← members? fuel rest
              let rest ← Text.afterStart? ";" rest
              let (others, rest) ← fields? fuel rest
              pure (⟨name, mark.isSome, ofMembers members⟩ :: others, rest)
  termination_by structural fuel => fuel

end

/-- What a text that is one type says. -/
def read? (text : Text) : Option TypeMeaning :=
  match members? (2 * text.length + 2) text with
  | some (members, []) => some (ofMembers members)
  | _ => none

/-! ## Members and types -/

/-- Nothing that follows can belong to the type before it. -/
def EndsType (rest : Text) : Prop :=
  ∀ letter ∈ rest.head?, letter = ')' ∨ letter = '>' ∨ letter = ';'

/-- The text is read as the member, with the list marks that come after it. -/
def IsMember (text : Text) (member : TypeMeaning) : Prop :=
  ∀ (fuel : Nat) (rest : Text), 2 * text.length < fuel → EndsName rest →
    member? fuel (text ++ rest) = some (marked member rest)

/-- The text shows the members between bars, none of which is a union itself. -/
inductive Shows : Text → List TypeMeaning → Prop where
  | single {text : Text} {member : TypeMeaning} (first : IsMember text member)
      (simple : ∀ members, member ≠ .union members) : Shows text [member]
  | union {text others : Text} {member : TypeMeaning} {members : List TypeMeaning}
      (first : IsMember text member) (rest : Shows others members) :
      Shows (text ++ " | " ++ others) (member :: members)

theorem endsType_nil : EndsType [] :=
  fun _ none => nomatch none

theorem endsType_cons {letter : Char} {rest : Text}
    (ends : letter = ')' ∨ letter = '>' ∨ letter = ';') : EndsType (letter :: rest) := by
  intro first begins
  rwa [← Option.some.inj begins]

theorem EndsType.endsName {rest : Text} (ends : EndsType rest) : EndsName rest := by
  intro letter begins
  rcases ends letter begins with rfl | rfl | rfl <;> decide

theorem marked_of_head {member : TypeMeaning} {rest : Text} (other : rest.head? ≠ some '[') :
    marked member rest = (member, rest) := by
  unfold marked
  split
  · exact absurd rfl other
  · rfl

theorem marked_of_endsType {member : TypeMeaning} {rest : Text} (ends : EndsType rest) :
    marked member rest = (member, rest) := by
  refine marked_of_head fun bracket => ?_
  exact absurd (ends '[' bracket) (by decide)

theorem afterBar?_of_endsType {rest : Text} (ends : EndsType rest) :
    Text.afterStart? " | " rest = none := by
  have apart : Text.startsWith rest " | " = false := by
    cases rest with
    | nil => rfl
    | cons letter others => rcases ends letter rfl with rfl | rfl | rfl <;> rfl
  rw [Text.afterStart?, apart]
  rfl

/-- A text that shows members is read as these members. -/
theorem members?_of_shows {text : Text} {members : List TypeMeaning} (shows : Shows text members)
    (fuel : Nat) (rest : Text) (enough : 2 * text.length + 1 < fuel) (ends : EndsType rest) :
    members? fuel (text ++ rest) = some (members, rest) := by
  induction shows generalizing fuel with
  | single first _ =>
      obtain ⟨fuel, rfl⟩ := Nat.exists_eq_add_one_of_ne_zero (Nat.ne_zero_of_lt enough)
      have read := first fuel rest (by omega) ends.endsName
      rw [marked_of_endsType ends] at read
      rw [members?, read, Option.bind_eq_bind, Option.bind_some]
      dsimp only
      rw [afterBar?_of_endsType ends]
      rfl
  | @union text others member members first shows ih =>
      obtain ⟨fuel, rfl⟩ := Nat.exists_eq_add_one_of_ne_zero (Nat.ne_zero_of_lt enough)
      have width : " | ".toList.length = 3 := rfl
      rw [List.length_append, List.length_append, width] at enough
      have bar : EndsName (" | ".toList ++ (others ++ rest)) := endsName_cons (by decide)
      have read := first fuel _ (by omega) bar
      rw [marked_of_head (by simp)] at read
      rw [List.append_assoc, List.append_assoc, members?, read, Option.bind_eq_bind,
        Option.bind_some]
      dsimp only
      rw [Text.afterStart?_append]
      dsimp only
      rw [ih _ (by omega)]
      rfl

/-! ## Members by their form -/

theorem isMember_named {name : Text} (plain : Naming.isPlain name = true) :
    IsMember name (.named name) := by
  intro fuel rest enough ends
  obtain ⟨fuel, rfl⟩ := Nat.exists_eq_add_one_of_ne_zero (Nat.ne_zero_of_lt enough)
  obtain ⟨first, others, same, part⟩ := exists_cons_of_isPlain plain
  have apart : Text.startsWith rest "<string, " = false := by
    cases rest with
    | nil => rfl
    | cons letter after =>
        have other := (ends letter rfl).2.2
        simp [Text.startsWith, List.isPrefixOf, ne_comm.mp other]
  have other (opening : Char) (apart : Naming.isIdentifierPart opening = false) (after : Text) :
      name ++ rest ≠ opening :: after := by
    rw [same]
    intro begins
    rw [(List.cons.inj begins).1, apart] at part
    cases part
  rw [member?]
  · rw [wordAt_append plain ends]
    dsimp only
    rw [Text.afterStart?, apart]
    rfl
  · exact other _ (by decide)
  · exact other _ (by decide)
  · exact other _ (by decide)

theorem isMember_literal (value : Text) :
    IsMember (Json.quote true value) (.literal (Text.joined value)) := by
  intro fuel rest enough _
  obtain ⟨fuel, rfl⟩ := Nat.exists_eq_add_one_of_ne_zero (Nat.ne_zero_of_lt enough)
  obtain ⟨after, begins, read⟩ := Json.literalUnits?_quote value rest
  rw [begins, member?, read]
  rfl

/-- A text in parentheses is one member, whatever it shows. -/
theorem isMember_parentheses {text : Text} {members : List TypeMeaning}
    (shows : Shows text members) : IsMember ("(" ++ text ++ ")") (ofMembers members) := by
  intro fuel rest enough _
  obtain ⟨fuel, rfl⟩ := Nat.exists_eq_add_one_of_ne_zero (Nat.ne_zero_of_lt enough)
  have whole : "(".toList ++ text ++ ")" ++ rest = '(' :: (text ++ (")".toList ++ rest)) := by simp
  have read := members?_of_shows shows fuel (")".toList ++ rest)
    (by simp at enough; omega) (endsType_cons (.inl rfl))
  rw [whole, member?, read, Option.bind_eq_bind, Option.bind_some]
  dsimp only
  rw [Text.afterStart?_append]
  rfl

theorem isMember_record {text : Text} {members : List TypeMeaning} (shows : Shows text members) :
    IsMember ("Record<string, " ++ text ++ ">") (.record (ofMembers members)) := by
  intro fuel rest enough _
  obtain ⟨fuel, rfl⟩ := Nat.exists_eq_add_one_of_ne_zero (Nat.ne_zero_of_lt enough)
  have whole : "Record<string, ".toList ++ text ++ ">" ++ rest =
      "Record".toList ++ ("<string, ".toList ++ (text ++ (">".toList ++ rest))) := by simp
  have read := members?_of_shows shows fuel (">".toList ++ rest)
    (by simp at enough; omega) (endsType_cons (.inr (.inl rfl)))
  have word : wordAt ("Record".toList ++ ("<string, ".toList ++ (text ++ (">".toList ++ rest)))) =
      ("Record".toList, "<string, ".toList ++ (text ++ (">".toList ++ rest))) := rfl
  rw [whole, member?]
  · rw [word]
    dsimp only
    rw [Text.afterStart?_append]
    dsimp only
    rw [read, Option.bind_eq_bind, Option.bind_some]
    dsimp only
    rw [Text.afterStart?_append]
    rfl
  · exact fun _ same => absurd (List.cons.inj same).1 (by decide)
  · exact fun _ same => absurd (List.cons.inj same).1 (by decide)
  · exact fun _ same => absurd (List.cons.inj same).1 (by decide)

/-- The marks of a list go to the whole member. -/
theorem IsMember.list {text : Text} {member : TypeMeaning} (read : IsMember text member) :
    IsMember (text ++ "[]") (.list member.alone) := by
  intro fuel rest enough _
  have marks : EndsName ("[]".toList ++ rest) := endsName_cons (by decide)
  rw [List.append_assoc, read fuel _ (by simp at enough; omega) marks]
  rfl

theorem alone_ofMembers (members : List TypeMeaning) :
    (ofMembers members).alone = ofMembers members := by
  match members with
  | [] => rfl
  | [member] => cases member <;> rfl
  | _ :: _ :: _ => rfl

/-- An item is in parentheses if bars can be seen in it, so its marks belong to all of it. -/
theorem isMember_listItem {text : Text} {members : List TypeMeaning} (shows : Shows text members) :
    IsMember (listItem text ++ "[]") (.list (ofMembers members)) := by
  unfold listItem
  split
  · rw [← alone_ofMembers]
    exact (isMember_parentheses shows).list
  · next closed =>
      cases shows with
      | single first _ => exact first.list
      | union _ _ =>
          refine absurd (Text.holds_iff_isInfix.mpr ?_) closed
          exact ⟨_, _, rfl⟩

/-! ## Fields -/

/-- What stands between the opening brace of an object and what closes it is read as the fields. -/
def AreFields (text : Text) (fields : List (Field TypeMeaning)) : Prop :=
  ∀ (fuel : Nat) (closing rest : Text), 2 * text.length < fuel →
    (∀ fuel, 0 < fuel → fields? fuel closing = some ([], rest)) →
    fields? fuel (text ++ closing) = some (fields, rest)

theorem areFields_nil : AreFields [] [] :=
  fun fuel _ _ enough closes => closes fuel (Nat.zero_lt_of_lt enough)

theorem eq_blank_of_mem_indent (depth : Nat) : ∀ letter ∈ indent depth, letter = ' ' :=
  fun _ member => List.eq_of_mem_replicate member

theorem dropWhile_isGap (depth : Nat) {letter : Char} (other : isGap letter = false)
    (rest : Text) :
    ('\n' :: (indent depth ++ letter :: rest)).dropWhile isGap = letter :: rest := by
  have gaps : ∀ blank ∈ indent depth, isGap blank = true := by
    intro blank member
    rw [eq_blank_of_mem_indent depth blank member]
    rfl
  rw [List.dropWhile_cons_of_pos (by decide), List.dropWhile_append_of_pos gaps,
    List.dropWhile_cons_of_neg (by simp [other])]

/-- A closing brace on a line of its own ends the fields. -/
theorem fields?_closing (depth : Nat) (rest : Text) {fuel : Nat} (enough : 0 < fuel) :
    fields? fuel ('\n' :: (indent depth ++ '\x7d' :: rest)) = some ([], rest) := by
  obtain ⟨fuel, rfl⟩ := Nat.exists_eq_add_one_of_ne_zero (Nat.ne_zero_of_lt enough)
  rw [fields?, dropWhile_isGap depth (by decide)]
  dsimp only
  have closes : Text.afterStart? ['\x7d'] ('\x7d' :: rest) = some rest :=
    Text.afterStart?_append ['\x7d'] rest
  rw [closes]

/-- A comment is passed over. -/
theorem AreFields.comment {text : Text} {fields : List (Field TypeMeaning)}
    (shown : AreFields text fields) (depth : Nat) (remark : Text) :
    AreFields ('\n' :: TypeScript.comment (indent depth) remark ++ text) fields := by
  have blank (letter : Char) (member : letter ∈ indent depth) : isBlank letter = true :=
    eq_blank_of_mem_indent depth letter member ▸ rfl
  obtain ⟨inner, spelled, unmarked⟩ := exists_comment_eq blank remark
  intro fuel closing rest enough closes
  obtain ⟨fuel, rfl⟩ := Nat.exists_eq_add_one_of_ne_zero (Nat.ne_zero_of_lt enough)
  have whole : '\n' :: TypeScript.comment (indent depth) remark ++ text ++ closing =
      '\n' :: (indent depth ++ '/' :: '*' :: ('*' :: inner ++ '*' :: '/' ::
        (text ++ closing))) := by
    simp [spelled]
  have opening : Text.afterStart? ['/', '*'] ('/' :: '*' :: ('*' :: inner ++ '*' :: '/' ::
      (text ++ closing))) = some ('*' :: inner ++ '*' :: '/' :: (text ++ closing)) :=
    Text.afterStart?_append ['/', '*'] _
  rw [whole, fields?, dropWhile_isGap depth (by decide)]
  dsimp only
  rw [Text.afterStart?_eq_none (by decide), opening]
  dsimp only
  rw [afterMark?_append unmarked, Option.bind_eq_bind, Option.bind_some]
  exact shown fuel closing rest (by simp at enough; omega) closes

/-- A key begins with a quote or a letter of a word. -/
theorem exists_propertyKey_eq_cons (name : Text) :
    ∃ first rest, Naming.propertyKey name = first :: rest ∧
      (first = '"' ∨ Naming.isIdentifierPart first = true) := by
  unfold Naming.propertyKey
  split
  · next plain =>
      obtain ⟨first, rest, same, part⟩ := exists_cons_of_isPlain plain
      exact ⟨first, rest, same, .inr part⟩
  · exact ⟨'"', Naming.keyBody name ++ ['"'], rfl, .inl rfl⟩

/-- What stands between a key and its type says whether the field is optional. -/
theorem exists_afterStart?_mark (isOptional : Bool) (rest : Text) :
    EndsName ((if isOptional then "?".toList else []) ++ (": ".toList ++ rest)) ∧
      ∃ found, Text.afterStart? ['?'] ((if isOptional then "?".toList else []) ++
        (": ".toList ++ rest)) = found ∧ found.isSome = isOptional ∧
          found.getD ((if isOptional then "?".toList else []) ++ (": ".toList ++ rest)) =
            ": ".toList ++ rest := by
  cases isOptional with
  | true =>
      exact ⟨endsName_cons (by decide), _, Text.afterStart?_append ['?'] _, rfl, rfl⟩
  | false =>
      exact ⟨endsName_cons (by decide), _, Text.afterStart?_eq_none (by decide) _ _, rfl, rfl⟩

/-- A line with a key and a type is read as a field. -/
theorem AreFields.field {text type : Text} {fields : List (Field TypeMeaning)}
    {members : List TypeMeaning} (shown : AreFields text fields) (shows : Shows type members)
    (depth : Nat) (name : Text) (isOptional : Bool) :
    AreFields ('\n' :: (indent depth ++ Naming.propertyKey name ++
        (if isOptional then "?".toList else []) ++ ": " ++ type ++ ";") ++ text)
      (⟨name, isOptional, ofMembers members⟩ :: fields) := by
  obtain ⟨first, others, begins, starts⟩ := exists_propertyKey_eq_cons name
  have unlike (letter : Char) (apart : Naming.isIdentifierPart letter = false)
      (quote : letter ≠ '"') : first ≠ letter := by
    rintro rfl
    rcases starts with same | part
    · exact quote same
    · rw [apart] at part
      cases part
  have other : isGap first = false := by
    simp [isGap, unlike ' ' (by decide) (by decide), unlike '\n' (by decide) (by decide)]
  intro fuel closing rest enough closes
  obtain ⟨fuel, rfl⟩ := Nat.exists_eq_add_one_of_ne_zero (Nat.ne_zero_of_lt enough)
  have typed := members?_of_shows shows fuel (";".toList ++ (text ++ closing))
    (by simp at enough; omega) (endsType_cons (.inr (.inr rfl)))
  have left := shown fuel closing rest (by simp at enough; omega) closes
  obtain ⟨ends, found, marks, isSome, getD⟩ :=
    exists_afterStart?_mark isOptional (type ++ (";".toList ++ (text ++ closing)))
  have key := key?_append name ends
  have whole : '\n' :: (indent depth ++ Naming.propertyKey name ++
      (if isOptional then "?".toList else []) ++ ": " ++ type ++ ";") ++ text ++ closing =
      '\n' :: (indent depth ++ first :: (others ++ ((if isOptional then "?".toList else []) ++
        (": ".toList ++ (type ++ (";".toList ++ (text ++ closing))))))) := by
    simp [begins]
  rw [begins, List.cons_append] at key
  rw [whole, fields?, dropWhile_isGap depth other]
  dsimp only
  rw [Text.afterStart?_eq_none (unlike '\x7d' (by decide) (by decide)),
    Text.afterStart?_eq_none (unlike '/' (by decide) (by decide))]
  simp only [key, marks, getD, isSome, typed, left, Text.afterStart?_append, Option.bind_eq_bind,
    Option.bind_some]
  rfl

/-- The braces of an object with fields between them are one member. -/
theorem isMember_object {text : Text} {fields : List (Field TypeMeaning)}
    (shown : AreFields text fields) (depth : Nat) :
    IsMember ('\x7b' :: (text ++ '\n' :: (indent depth ++ ['\x7d']))) (.object fields) := by
  intro fuel rest enough _
  obtain ⟨fuel, rfl⟩ := Nat.exists_eq_add_one_of_ne_zero (Nat.ne_zero_of_lt enough)
  have whole : '\x7b' :: (text ++ '\n' :: (indent depth ++ ['\x7d'])) ++ rest =
      '\x7b' :: (text ++ '\n' :: (indent depth ++ '\x7d' :: rest)) := by
    simp
  have read := shown fuel ('\n' :: (indent depth ++ '\x7d' :: rest)) rest
    (by simp at enough; omega) fun _ enough => fields?_closing depth rest enough
  rw [whole, member?, read]
  rfl

/-! ## Types of schemas -/

/-- The text shows members that make the type together. -/
def Writes (text : Text) (meaning : TypeMeaning) : Prop :=
  ∃ members, Shows text members ∧ ofMembers members = meaning

theorem IsMember.writes {text : Text} {member : TypeMeaning} (read : IsMember text member)
    (simple : ∀ members, member ≠ .union members) (whole : member.alone = member) :
    Writes text member :=
  ⟨[member], .single read simple, whole⟩

theorem writes_named {name : Text} (plain : Naming.isPlain name = true) :
    Writes name (.named name) :=
  (isMember_named plain).writes (fun _ same => nomatch same) rfl

/-- Null after a last bar is a last member. -/
theorem Shows.withNull {text : Text} {members : List TypeMeaning} (shows : Shows text members) :
    Shows (text ++ " | null") (members ++ [.named "null"]) := by
  have null : Shows "null" [.named "null"] :=
    .single (isMember_named (by decide)) fun _ same => nomatch same
  have parted : " | null".toList = " | ".toList ++ "null".toList := rfl
  induction shows with
  | single first _ =>
      rw [parted, ← List.append_assoc]
      exact .union first null
  | union first _ ih =>
      rw [List.append_assoc]
      exact .union first ih

/-- The meaning of a union with null is that of the members with null. -/
theorem withNull_ofMembers {text : Text} {members : List TypeMeaning} (shows : Shows text members)
    (other : (ofMembers members).isNullName = false) :
    (ofMembers members).withNull = ofMembers (members ++ [.named "null"]) := by
  cases shows with
  | @single _ member _ simple =>
      cases member with
      | union members => exact absurd rfl (simple members)
      | literal value => rfl
      | _ => exact withNull_of_simple other simple
  | union first rest =>
      cases rest with
      | single _ _ => rfl
      | union _ _ => rfl

theorem Writes.withNull {text : Text} {meaning : TypeMeaning} (writes : Writes text meaning)
    (other : meaning.isNullName = false) : Writes (text ++ " | null") meaning.withNull := by
  obtain ⟨members, shows, rfl⟩ := writes
  exact ⟨_, shows.withNull, (withNull_ofMembers shows other).symm⟩

end ApiForge.TypeScript.TypeMeaning
