import ApiForge.Proofs.TypeScript.TemplateValues

/-!
# Keys of members

A key is one token for a name: the name as an identifier, or a string literal on
one line. The key that is made of a name is such a token unless the name holds
the end of a line; and whatever the name, an access reads the member that the
key declares.
-/

namespace ApiForge.TypeScript

/-! ## Tokens -/

/-- The letters that end a line of source text. -/
def isLineTerminator (letter : Char) : Bool :=
  letter == '\n' || letter == '\r' || letter == '\u2028' || letter == '\u2029'

/-- The text that a string literal stands for, if the whole token is one. -/
def literalText? : Text → Option Text
  | '"' :: rest => (quoted? rest).bind fun found => if found.2.isEmpty then some found.1 else none
  | _ => none

/-- The key is one token for the name: the name itself if that is an identifier, or a string literal
on one line that stands for the name. -/
def IsKeyOf (name key : Text) : Prop :=
  (key = name ∧ Naming.isIdentifier name = true) ∨
    (key.any isLineTerminator = false ∧ literalText? key = some name)

/-- The member that a key declares. Blanks may stand after an identifier. -/
def declaredMember? : Text → Option Text
  | '"' :: rest => literalText? ('"' :: rest)
  | key =>
      let name := key.takeWhile Naming.isIdentifierPart
      if Naming.isIdentifier name &&
        (key.dropWhile Naming.isIdentifierPart).all Char.isWhitespace then some name
      else none

/-- The member of the target that an expression reads, if the whole expression is one read. -/
def accessedMember? (target expression : Text) : Option Text :=
  (Text.afterStart? target expression).bind fun access =>
    (member? access).bind fun found => if found.2.isEmpty then some found.1 else none

/-! ## Quoted keys -/

/-- The backslashes of a quoted name do not end lines. -/
theorem any_keyBody (name : Text) :
    (Naming.keyBody name).any isLineTerminator = name.any isLineTerminator := by
  have mark : isLineTerminator '\\' = false := by decide
  induction name with
  | nil => rfl
  | cons letter rest ih =>
      rw [Naming.keyBody_cons]
      split
      · rw [List.any_cons, List.any_cons, mark, Bool.false_or, ih, List.any_cons]
      · rw [List.any_cons, ih, List.any_cons]

theorem any_quotedKey (name : Text) :
    (Naming.quotedKey name).any isLineTerminator = name.any isLineTerminator := by
  have quote : isLineTerminator '"' = false := by decide
  rw [Naming.quotedKey_eq, List.any_cons, List.any_append, any_keyBody, quote, Bool.false_or]
  exact Bool.or_false _

theorem literalText?_quotedKey (name : Text) :
    literalText? (Naming.quotedKey name) = if IsLineName name then some name else none := by
  rw [Naming.quotedKey_eq, literalText?, quoted?_keyBody]
  split <;> rfl

theorem isLineName_of_any {name : Text} (line : name.any isLineTerminator = false) :
    IsLineName name := by
  rw [List.any_eq_false] at line
  refine ⟨fun member => ?_, fun member => ?_⟩
  all_goals exact line _ member (by decide)

theorem any_of_isIdentifier {name : Text} (identified : Naming.isIdentifier name = true) :
    name.any isLineTerminator = false := by
  rw [List.any_eq_false]
  intro letter member ends
  have part := Naming.isIdentifierPart_of_mem identified letter member
  simp only [isLineTerminator, Bool.or_eq_true, beq_iff_eq] at ends
  rcases ends with ((rfl | rfl) | rfl) | rfl <;> revert part <;> decide

/-- The key of a name is one token for it, unless a line ends in the name. -/
theorem isKeyOf_propertyKey_iff (name : Text) :
    IsKeyOf name (Naming.propertyKey name) ↔ name.any isLineTerminator = false := by
  constructor
  · rintro (⟨_, identified⟩ | ⟨line, _⟩)
    · exact any_of_isIdentifier identified
    · unfold Naming.propertyKey at line
      split at line
      · exact line
      · rwa [any_quotedKey] at line
  · intro line
    unfold Naming.propertyKey
    split
    · next plain =>
        obtain ⟨word, identified, rfl | rfl⟩ := Naming.isPlain_iff.mp plain
        · exact .inl ⟨rfl, identified⟩
        · simp [isLineTerminator] at line
    · refine .inr ⟨by rwa [any_quotedKey], ?_⟩
      rw [literalText?_quotedKey, if_pos (isLineName_of_any line)]

/-! ## Members -/

theorem declaredMember?_of_isIdentifier {word feed : Text}
    (identified : Naming.isIdentifier word = true) (blank : feed = [] ∨ feed = ['\n']) :
    declaredMember? (word ++ feed) = some word := by
  have parts := Naming.isIdentifierPart_of_mem identified
  have unquoted : ∀ rest, word ++ feed ≠ '"' :: rest := by
    intro rest same
    cases word with
    | nil => cases identified
    | cons first others =>
        have part := parts first List.mem_cons_self
        rw [(List.cons.inj same).1] at part
        revert part
        decide
  have stops : ∀ letter ∈ feed.head?, Naming.isIdentifierPart letter = false := by
    intro letter first
    rcases blank with rfl | rfl
    · cases first
    · rw [← Option.some.inj first]
      decide
  obtain ⟨taken, dropped⟩ := Text.takeWhile_append_of_stops parts stops
  have blanks : feed.all Char.isWhitespace = true := by
    rcases blank with rfl | rfl <;> rfl
  rw [declaredMember?.eq_2 _ unquoted]
  simp only [taken, dropped, blanks, identified, Bool.and_true, if_true]

/-- A key declares the member with its name, if that stands on one line. An identifier with a line
feed after it declares the identifier, and other keys declare nothing. -/
theorem declaredMember?_propertyKey (name : Text) :
    declaredMember? (Naming.propertyKey name) =
      if IsLineName name then some name
      else if Naming.isPlain name then some name.dropLast
      else none := by
  unfold Naming.propertyKey
  by_cases plain : Naming.isPlain name = true
  · rw [if_pos plain, if_pos plain]
    obtain ⟨word, identified, rfl | rfl⟩ := Naming.isPlain_iff.mp plain
    · rw [if_pos (isLineName_of_isIdentifier identified)]
      simpa using declaredMember?_of_isIdentifier identified (.inl rfl)
    · have broken : ¬ IsLineName (word ++ ['\n']) := by simp [IsLineName]
      rw [if_neg broken, List.dropLast_concat]
      exact declaredMember?_of_isIdentifier identified (.inr rfl)
  · rw [if_neg plain, if_neg plain, ← literalText?_quotedKey]
    rfl

/-- An access reads what the key of the name declares. -/
theorem accessedMember?_memberAccess (target name : Text) :
    accessedMember? target (Naming.memberAccess target name) =
      declaredMember? (Naming.propertyKey name) := by
  have ends : EndsMember [] := fun _ none => nomatch none
  have read := member?_accessOf name ends
  rw [List.append_nil] at read
  rw [memberAccess_eq, accessedMember?, Text.afterStart?_append, Option.bind_some, read,
    declaredMember?_propertyKey]
  split
  · rfl
  · split <;> rfl

/-! ## Types -/

theorem isIdentifier_schemaType_iff (name : Text) :
    Naming.isIdentifier (Naming.schemaType name) = true ↔ ¬ Naming.EndsInFeed name := by
  constructor
  · intro identified ends
    exact Naming.feed_not_mem_of_isIdentifier identified (Naming.feed_mem_schemaType_iff.mpr ends)
  · intro unended
    unfold Naming.schemaType
    split
    · next plain =>
        obtain ⟨word, identified, rfl | same⟩ := Naming.isPlain_iff.mp plain
        · exact identified
        · exact absurd ⟨word, identified, same⟩ unended
    · exact Naming.isIdentifier_pascal name

theorem schemaType_eq_self_iff (name : Text) :
    Naming.schemaType name = name ↔
      Naming.isIdentifier name = true ∨ Naming.EndsInFeed name := by
  constructor
  · intro same
    by_cases ends : Naming.EndsInFeed name
    · exact .inr ends
    · have identified := (isIdentifier_schemaType_iff name).mpr ends
      exact .inl (by rwa [same] at identified)
  · intro plain
    refine if_pos (Naming.isPlain_iff.mpr ?_)
    rcases plain with identified | ⟨word, identified, same⟩
    · exact ⟨name, identified, .inl rfl⟩
    · exact ⟨word, identified, .inr same⟩

/-- The key of a name is one token for it exactly if no line ends in the name. An access reads the
member that the key declares: the one with the name, if that stands on one line, and for an
identifier with a line feed after it the identifier. The type of a schema is an identifier unless
its name is an identifier with a line feed after it, and these two kinds of names stay as they
are. -/
theorem keys_of_names (name : Text) :
    (IsKeyOf name (Naming.propertyKey name) ↔ name.any isLineTerminator = false) ∧
      (∀ target, accessedMember? target (Naming.memberAccess target name) =
        declaredMember? (Naming.propertyKey name)) ∧
      declaredMember? (Naming.propertyKey name) =
        (if IsLineName name then some name
          else if Naming.isPlain name then some name.dropLast
          else none) ∧
      (Naming.isIdentifier (Naming.schemaType name) = true ↔ ¬ Naming.EndsInFeed name) ∧
      (Naming.schemaType name = name ↔
        Naming.isIdentifier name = true ∨ Naming.EndsInFeed name) :=
  ⟨isKeyOf_propertyKey_iff name, fun target => accessedMember?_memberAccess target name,
    declaredMember?_propertyKey name, isIdentifier_schemaType_iff name,
    schemaType_eq_self_iff name⟩

/-- A line feed inside a name stays in its literal. At the end of an identifier it is no reason for
quotes, so two names declare one member, and a type is no identifier. -/
theorem not_isKeyOf_of_feed :
    ¬ IsKeyOf "line\nbreak" (Naming.propertyKey "line\nbreak") ∧
      declaredMember? (Naming.propertyKey "unit\n") = some "unit".toList ∧
      declaredMember? (Naming.propertyKey "unit") = some "unit".toList ∧
      Naming.isIdentifier (Naming.schemaType "Pet\n") = false := by
  refine ⟨fun key => ?_, by decide, by decide, by decide⟩
  have line := (isKeyOf_propertyKey_iff _).mp key
  revert line
  decide

end ApiForge.TypeScript
