import ApiForge.Proofs.Naming.Forms
import ApiForge.Proofs.Text.Stretches
import ApiForge.Proofs.TypeScript.PathPieces
import ApiForge.Url.Percent

/-!
# Values of template literals

What the literal of a path evaluates to: escaped letters stand for themselves,
every end of a line is a line feed, and an interpolation that reads and encodes
a parameter gives the encoded value. The values that matter for telling a wrong
literal from a right one are few, so a literal is right for all values if it is
right for those.
-/

namespace ApiForge.TypeScript

/-! ## Components -/

/-- The letters that stand for themselves in a part of a URL. -/
def isComponentLetter (letter : Char) : Bool :=
  letter.isAlphanum || "-_.!~*'()".toList.contains letter

/-- The text as a part of a URL; half of a surrogate pair cannot be encoded. -/
def encodeComponent? (text : Text) : Option Text :=
  if text.any isLoneSurrogate then none
  else some (text.flatMap fun letter =>
    if isComponentLetter letter then [letter] else Url.percentForm letter)

/-! ## Expressions -/

/-- The text of a string literal, read after its opening quote, and what follows the closing one. A
string literal does not go over the end of a line, and of the escapes only those of quotes and
backslashes are read. -/
def quoted? : Text → Option (Text × Text)
  | [] => none
  | letter :: rest =>
      if letter = '"' then some ([], rest)
      else if letter = '\n' ∨ letter = '\r' then none
      else if letter = '\\' then
        match rest with
        | [] => none
        | escaped :: others =>
            if escaped = '\\' ∨ escaped = '"' then
              (quoted? others).map fun (text, after) => (escaped :: text, after)
            else none
      else (quoted? rest).map fun (text, after) => (letter :: text, after)

/-- The name of the member that is read, and what follows. Blanks may stand after an identifier. -/
def member? : Text → Option (Text × Text)
  | '.' :: rest =>
      let name := rest.takeWhile Naming.isIdentifierPart
      if Naming.isIdentifier name then
        some (name, (rest.dropWhile Naming.isIdentifierPart).dropWhile Char.isWhitespace)
      else none
  | '[' :: '"' :: rest => do
      let (name, after) ← quoted? rest
      let after ← Text.afterStart? "]" after
      pure (name, after)
  | _ => none

def readOpening : Text := "encodeURIComponent(String(params"
def readClosing : Text := "))\x7d"

/-- The name of the parameter that an interpolation reads and encodes, read after its opening brace,
and what follows the closing one. Other interpolations are code of their own. -/
def encodedMember? (text : Text) : Option (Text × Text) :=
  (Text.afterStart? readOpening text).bind fun access =>
    (member? access).bind fun found =>
      (Text.afterStart? readClosing found.2).map fun after => (found.1, after)

theorem length_quoted? {text name rest : Text} (found : quoted? text = some (name, rest)) :
    rest.length ≤ text.length := by
  fun_induction quoted? text generalizing name with
  | case1 | case3 | case4 | case6 => cases found
  | case2 =>
      cases found
      exact Nat.le_succ _
  | case5 _ _ _ _ _ ih =>
      obtain ⟨⟨inner, after⟩, held, same⟩ := Option.map_eq_some_iff.mp found
      cases same
      have shorter := ih held
      simp only [List.length_cons]
      omega
  | case7 _ _ _ _ _ ih =>
      obtain ⟨⟨inner, after⟩, held, same⟩ := Option.map_eq_some_iff.mp found
      cases same
      exact Nat.le_succ_of_le (ih held)

theorem length_member? {text name rest : Text} (found : member? text = some (name, rest)) :
    rest.length ≤ text.length := by
  unfold member? at found
  split at found
  · next text =>
      dsimp only at found
      split at found
      · cases found
        have shorter := ((List.dropWhile_suffix Char.isWhitespace).trans
          (List.dropWhile_suffix Naming.isIdentifierPart (l := text))).length_le
        exact Nat.le_succ_of_le shorter
      · cases found
  · next text =>
      obtain ⟨⟨inner, after⟩, held, found⟩ := Option.bind_eq_some_iff.mp found
      obtain ⟨last, closed, same⟩ := Option.bind_eq_some_iff.mp found
      cases same
      have first := length_quoted? held
      have second := Text.length_afterStart? closed
      simp only [List.length_cons]
      omega
  · cases found

theorem length_encodedMember? {text name rest : Text}
    (found : encodedMember? text = some (name, rest)) : rest.length ≤ text.length := by
  obtain ⟨access, start, found⟩ := Option.bind_eq_some_iff.mp found
  obtain ⟨⟨inner, after⟩, held, found⟩ := Option.bind_eq_some_iff.mp found
  obtain ⟨last, closed, same⟩ := Option.map_eq_some_iff.mp found
  cases same
  exact (Text.length_afterStart? closed).trans ((length_member? held).trans (Text.length_afterStart? start))

/-! ## Values -/

/-- What stands after a carriage return, without the line feed that belongs to it. -/
def afterReturn : Text → Text
  | '\n' :: rest => rest
  | text => text

theorem length_afterReturn (text : Text) : (afterReturn text).length ≤ text.length := by
  unfold afterReturn
  split
  · exact Nat.le_succ _
  · exact Nat.le_refl _

/-- What a template literal evaluates to, read after its opening backtick; `values` are those of the
parameters. A backslash stands before letters that then stand for themselves, every end of a line is
a line feed, and a dollar sign with a brace opens an interpolation. -/
def templateValue? (values : Text → Text) (text : Text) : Option Text :=
  match text with
  | [] => none
  | letter :: rest =>
      if letter = '\x60' then if rest.isEmpty then some [] else none
      else if letter = '\\' then
        match rest with
        | [] => none
        | escaped :: others =>
            if escaped = '\\' ∨ escaped = '\x60' ∨ escaped = '$' then
              (templateValue? values others).map (escaped :: ·)
            else none
      else if letter = '\r' then (templateValue? values (afterReturn rest)).map ('\n' :: ·)
      else if letter = '$' ∧ rest.head? = some '\x7b' then
        match _read : encodedMember? rest.tail with
        | none => none
        | some (name, after) => do
            let value ← encodeComponent? (values name)
            let others ← templateValue? values after
            pure (value ++ others)
      else (templateValue? values rest).map (letter :: ·)
termination_by text.length
decreasing_by
  · simp only [List.length_cons]
    omega
  · have := length_afterReturn rest
    simp only [List.length_cons]
    omega
  · have := length_encodedMember? _read
    simp only [List.length_tail, List.length_cons] at this ⊢
    omega
  · simp only [List.length_cons]
    omega

/-- What a text that is one template literal evaluates to. -/
def literalValue? (values : Text → Text) : Text → Option Text
  | '\x60' :: rest => templateValue? values rest
  | _ => none

/-! ## Reads of parameters -/

/-- The name stands on one line. -/
def IsLineName (name : Text) : Prop :=
  '\n' ∉ name ∧ '\r' ∉ name

instance (name : Text) : Decidable (IsLineName name) :=
  inferInstanceAs (Decidable (_ ∧ _))

theorem quoted?_cons_special {letter : Char} (special : letter = '\\' ∨ letter = '"')
    (rest : Text) :
    quoted? ('\\' :: letter :: rest) =
      (quoted? rest).map fun (text, after) => (letter :: text, after) := by
  rw [quoted?.eq_def]
  exact if_pos special

theorem quoted?_cons_plain {letter : Char} (plain : ¬ (letter = '\\' ∨ letter = '"'))
    (line : letter ≠ '\n' ∧ letter ≠ '\r') (rest : Text) :
    quoted? (letter :: rest) = (quoted? rest).map fun (text, after) => (letter :: text, after) := by
  rw [not_or] at plain
  rw [quoted?.eq_def]
  dsimp only
  rw [if_neg plain.2, if_neg (not_or.mpr line), if_neg plain.1]

theorem isLineName_cons {letter : Char} (line : letter ≠ '\n' ∧ letter ≠ '\r') (rest : Text) :
    IsLineName (letter :: rest) ↔ IsLineName rest := by
  simp [IsLineName, ne_comm.mp line.1, ne_comm.mp line.2]

/-- A quoted name is read back if it stands on one line, and else cannot be read. -/
theorem quoted?_keyBody (name rest : Text) :
    quoted? (Naming.keyBody name ++ '"' :: rest) =
      if IsLineName name then some (name, rest) else none := by
  induction name with
  | nil =>
      rw [if_pos (by decide), Naming.keyBody, List.flatMap_nil, List.nil_append, quoted?.eq_def]
      rfl
  | cons letter others ih =>
      rw [Naming.keyBody_cons]
      split
      · next special =>
          have line : letter ≠ '\n' ∧ letter ≠ '\r' := by
            rcases special with rfl | rfl <;> decide
          rw [List.cons_append, List.cons_append, quoted?_cons_special special, ih]
          simp only [isLineName_cons line]
          split <;> rfl
      · next plain =>
          by_cases line : letter ≠ '\n' ∧ letter ≠ '\r'
          · rw [List.cons_append, quoted?_cons_plain plain line, ih]
            simp only [isLineName_cons line]
            split <;> rfl
          · have ends : letter = '\n' ∨ letter = '\r' := by
              rwa [← not_or, not_not] at line
            have broken : ¬ IsLineName (letter :: others) := by
              rcases ends with rfl | rfl <;> simp [IsLineName]
            rw [if_neg broken, List.cons_append, quoted?.eq_def]
            dsimp only
            rw [if_neg (not_or.mp plain).2, if_pos ends]

/-- Neither a name nor a blank goes on with the text. -/
def EndsMember (rest : Text) : Prop :=
  ∀ letter ∈ rest.head?, Naming.isIdentifierPart letter = false ∧ letter.isWhitespace = false

theorem endsMember_closing (rest : Text) : EndsMember (')' :: rest) := by
  intro letter first
  rw [← Option.some.inj first]
  decide

/-- An identifier is read as it is, also with a line feed after it. -/
theorem member?_identifier {word feed rest : Text} (identified : Naming.isIdentifier word = true)
    (blank : feed = [] ∨ feed = ['\n']) (ends : EndsMember rest) :
    member? ('.' :: (word ++ (feed ++ rest))) = some (word, rest) := by
  have stops : ∀ letter ∈ (feed ++ rest).head?, Naming.isIdentifierPart letter = false := by
    intro letter first
    rcases blank with rfl | rfl
    · exact (ends letter first).1
    · rw [← Option.some.inj first]
      decide
  obtain ⟨taken, dropped⟩ :=
    Text.takeWhile_append_of_stops (Naming.isIdentifierPart_of_mem identified) stops
  have blanks : feed.all Char.isWhitespace = true := by
    rcases blank with rfl | rfl <;> rfl
  have after : (feed ++ rest).dropWhile Char.isWhitespace = rest :=
    (Text.takeWhile_append_of_stops (List.all_eq_true.mp blanks)
      fun letter first => (ends letter first).2).2
  unfold member?
  simp only [taken, dropped, after, identified, if_true]

theorem member?_quoted (name rest : Text) :
    member? ('[' :: (Naming.quotedKey name ++ ']' :: rest)) =
      if IsLineName name then some (name, rest) else none := by
  have closed (after : Text) : Text.afterStart? "]" (']' :: after) = some after :=
    Text.afterStart?_append [']'] after
  have body : '[' :: (Naming.quotedKey name ++ ']' :: rest) =
      '[' :: '"' :: (Naming.keyBody name ++ '"' :: ']' :: rest) := by
    rw [Naming.quotedKey_eq, List.cons_append, List.append_assoc]
    rfl
  rw [body, member?, quoted?_keyBody]
  split
  · simp only [Option.bind_eq_bind, Option.bind_some, closed]
    rfl
  · rfl

/-- What stands after the name of an object where a member of it is read. -/
def accessOf (name : Text) : Text :=
  if Naming.isPlain name then '.' :: name else '[' :: (Naming.quotedKey name ++ [']'])

theorem memberAccess_eq (target name : Text) :
    Naming.memberAccess target name = target ++ accessOf name := by
  unfold Naming.memberAccess Naming.propertyKey accessOf
  split
  · exact List.append_assoc ..
  · exact (List.append_assoc ..).trans (List.append_assoc ..)

theorem isLineName_of_isIdentifier {name : Text} (identified : Naming.isIdentifier name = true) :
    IsLineName name :=
  ⟨Naming.feed_not_mem_of_isIdentifier identified,
    Naming.not_mem_of_isIdentifier identified (by decide)⟩

/-- What is read of a member: a name on one line as itself, and a name that is an identifier and a
line feed as the identifier. Other names cannot be read. -/
theorem member?_accessOf (name : Text) {rest : Text} (ends : EndsMember rest) :
    member? (accessOf name ++ rest) =
      if IsLineName name then some (name, rest)
      else if Naming.isPlain name then some (name.dropLast, rest)
      else none := by
  unfold accessOf
  by_cases plain : Naming.isPlain name = true
  · rw [if_pos plain, if_pos plain, List.cons_append]
    obtain ⟨word, identified, rfl | rfl⟩ := Naming.isPlain_iff.mp plain
    · rw [if_pos (isLineName_of_isIdentifier identified)]
      exact member?_identifier identified (.inl rfl) ends
    · have broken : ¬ IsLineName (word ++ ['\n']) := by simp [IsLineName]
      rw [if_neg broken, List.dropLast_concat, List.append_assoc]
      exact member?_identifier identified (.inr rfl) ends
  · rw [if_neg plain, if_neg plain, List.cons_append, List.append_assoc]
    exact member?_quoted name _

theorem encodedMember?_encodedRead (name rest : Text) :
    encodedMember? (encodedRead name ++ '\x7d' :: rest) =
      if IsLineName name then some (name, rest)
      else if Naming.isPlain name then some (name.dropLast, rest)
      else none := by
  have opening : "encodeURIComponent(String(".toList ++ "params".toList = readOpening := by decide
  have closing : "))".toList ++ ['\x7d'] = readClosing := by decide
  have start : encodedRead name ++ '\x7d' :: rest =
      readOpening ++ (accessOf name ++ (readClosing ++ rest)) := by
    have regroup (first second third last : Text) :
        first ++ (second ++ third) ++ last ++ '\x7d' :: rest =
          first ++ second ++ (third ++ (last ++ ['\x7d'] ++ rest)) := by
      simp
    unfold encodedRead
    rw [memberAccess_eq, ← opening, ← closing]
    exact regroup _ _ _ _
  have closed : Text.afterStart? readClosing (')' :: ")\x7d" ++ rest) = some rest :=
    Text.afterStart?_append readClosing rest
  rw [start, encodedMember?, Text.afterStart?_append, Option.bind_some]
  have read := member?_accessOf name (endsMember_closing (")\x7d" ++ rest))
  refine (congrArg (Option.bind · _) read).trans ?_
  split
  · rw [Option.bind_some]
    exact congrArg (Option.map _) closed
  · split
    · rw [Option.bind_some]
      exact congrArg (Option.map _) closed
    · rfl

/-! ## Steps of a literal -/

variable {values : Text → Text} {rest : Text}

theorem templateValue?_end : templateValue? values ['\x60'] = some [] := by
  rw [templateValue?.eq_def]
  rfl

theorem templateValue?_escape {letter : Char}
    (special : letter = '\\' ∨ letter = '\x60' ∨ letter = '$') :
    templateValue? values ('\\' :: letter :: rest) =
      (templateValue? values rest).map (letter :: ·) := by
  rw [templateValue?.eq_def]
  exact if_pos special

theorem templateValue?_return :
    templateValue? values ('\r' :: rest) =
      (templateValue? values (afterReturn rest)).map ('\n' :: ·) := by
  rw [templateValue?.eq_def]
  rfl

/-- The value of a read parameter and what follows. -/
def readValue? (values : Text → Text) (found : Text × Text) : Option Text := do
  let value ← encodeComponent? (values found.1)
  let others ← templateValue? values found.2
  pure (value ++ others)

theorem templateValue?_interpolation :
    templateValue? values ('$' :: '\x7b' :: rest) =
      (encodedMember? rest).bind (readValue? values) := by
  rw [templateValue?.eq_def]
  change (match _read : encodedMember? rest with
    | none => none
    | some (name, after) => _) = _
  cases encodedMember? rest <;> rfl

/-- The letter stands for itself in a template literal, whatever follows. -/
def IsPlainLetter (letter : Char) : Prop :=
  letter ≠ '\x60' ∧ letter ≠ '\\' ∧ letter ≠ '\r'

theorem templateValue?_letter {letter : Char} (plain : IsPlainLetter letter)
    (text : letter = '$' → rest.head? ≠ some '\x7b') :
    templateValue? values (letter :: rest) = (templateValue? values rest).map (letter :: ·) := by
  rw [templateValue?.eq_def]
  dsimp only
  rw [if_neg plain.1, if_neg plain.2.1, if_neg plain.2.2, if_neg fun opens => text opens.1 opens.2]

/-! ## Stretches of text -/

/-- No brace comes after a dollar sign where the two texts meet. -/
def MeetApart (text more : Text) : Prop :=
  text.getLast? = some '$' → more.head? ≠ some '\x7b'

theorem MeetApart.tail {letter : Char} {others more : Text}
    (apart : MeetApart (letter :: others) more) : MeetApart others more := by
  cases others with
  | nil => exact fun none => nomatch none
  | cons second tail => exact apart

/-- A brace comes first after escaping only if one did before. -/
theorem head?_escapeTemplate {text more : Text}
    (brace : (escapeTemplate text ++ more).head? = some '\x7b') :
    text.head? = some '\x7b' ∨ text = [] ∧ more.head? = some '\x7b' := by
  fun_cases escapeTemplate text with
  | case1 => exact .inr ⟨rfl, brace⟩
  | case2 => exact absurd brace (by simp [escapeTemplate])
  | case3 letter others unlike special =>
      rw [escapeTemplate.eq_3 _ _ unlike, if_pos special] at brace
      exact absurd brace (by simp)
  | case4 letter others unlike ordinary =>
      rw [escapeTemplate.eq_3 _ _ unlike, if_neg ordinary] at brace
      exact .inl brace

/-- A dollar sign that is kept as it is has no brace after it. -/
theorem head?_ne_of_meetApart {letter : Char} {others more : Text}
    (unlike : ∀ rest, letter = '$' → others = '\x7b' :: rest → False)
    (apart : MeetApart (letter :: others) more) (dollar : letter = '$') :
    (escapeTemplate others ++ more).head? ≠ some '\x7b' := by
  intro brace
  rcases head?_escapeTemplate brace with first | ⟨rfl, first⟩
  · obtain ⟨rest, same⟩ := List.head?_eq_some_iff.mp first
    exact unlike rest dollar same
  · exact apart (congrArg some dollar) first

/-- Escaped text without carriage returns is read as the text. -/
theorem templateValue?_escapeTemplate {text more : Text} (noReturn : '\r' ∉ text)
    (apart : MeetApart text more) :
    templateValue? values (escapeTemplate text ++ more) =
      (templateValue? values more).map (text ++ ·) := by
  have twice (letter : Char) (others : Text) (value : Option Text) :
      (value.map (others ++ ·)).map (letter :: ·) = value.map (letter :: others ++ ·) := by
    cases value <;> rfl
  fun_induction escapeTemplate text with
  | case1 => exact Option.map_id'.symm
  | case2 others ih =>
      have inRest := ih (fun member => noReturn (by simp [member])) apart.tail.tail
      have brace : IsPlainLetter '\x7b' := ⟨by decide, by decide, by decide⟩
      rw [List.cons_append, List.cons_append, List.cons_append,
        templateValue?_escape (.inr (.inr rfl)),
        templateValue?_letter brace (fun same => absurd same (by decide)), inRest, twice, twice]
  | case3 letter others unlike special ih =>
      have inRest := ih (fun member => noReturn (List.mem_cons_of_mem _ member)) apart.tail
      rw [List.cons_append, List.cons_append, templateValue?_escape (special.imp_right .inl),
        inRest, twice]
  | case4 letter others unlike ordinary ih =>
      have inRest := ih (fun member => noReturn (List.mem_cons_of_mem _ member)) apart.tail
      rw [not_or] at ordinary
      have plain : IsPlainLetter letter :=
        ⟨ordinary.2, ordinary.1, fun same => noReturn (same ▸ List.mem_cons_self)⟩
      rw [List.cons_append, templateValue?_letter plain (head?_ne_of_meetApart unlike apart),
        inRest, twice]

/-! ## Distinguishing values -/

/-- Values that tell names with a line feed from those without, and both from a dollar sign. -/
def marks (name : Text) : Text :=
  if '\n' ∈ name then ['A'] else ['B']

theorem encodeComponent?_marks (name : Text) :
    encodeComponent? (marks name) = some (marks name) := by
  unfold marks
  split <;> decide

theorem readValue?_marks {name after result : Text}
    (value : readValue? marks (name, after) = some result) :
    ∃ others, templateValue? marks after = some others ∧ result = marks name ++ others := by
  unfold readValue? at value
  rw [encodeComponent?_marks] at value
  obtain ⟨encoded, isEncoded, value⟩ := Option.bind_eq_some_iff.mp value
  obtain ⟨others, held, same⟩ := Option.bind_eq_some_iff.mp value
  cases isEncoded
  exact ⟨others, held, (Option.some.inj same).symm⟩

/-- An interpolation gives no dollar sign. -/
theorem templateValue?_marks_ne_dollar (rest filled : Text) :
    templateValue? marks ('$' :: '\x7b' :: rest) ≠ some ('$' :: filled) := by
  rw [templateValue?_interpolation]
  intro value
  obtain ⟨⟨name, after⟩, _, value⟩ := Option.bind_eq_some_iff.mp value
  obtain ⟨others, _, same⟩ := readValue?_marks value
  unfold marks at same
  split at same
  · cases same
  · cases same

theorem of_map_cons {letter : Char} {text : Text} {value : Option Text}
    (same : value.map (letter :: ·) = some (letter :: text)) : value = some text := by
  obtain ⟨inner, held, same⟩ := Option.map_eq_some_iff.mp same
  exact held.trans (congrArg some (List.cons.inj same).2)

/-- If escaped text is read as the text, it has no carriage returns and opens no interpolation. -/
theorem of_templateValue?_escapeTemplate {text more filled : Text}
    (value : templateValue? marks (escapeTemplate text ++ more) = some (text ++ filled)) :
    '\r' ∉ text ∧ MeetApart text more ∧ templateValue? marks more = some filled := by
  -- What holds of the letters after one letter holds with that letter, too.
  have step {letter : Char} {others : Text} (other : letter ≠ '\r')
      (last : others = [] → letter = '$' → more.head? ≠ some '\x7b')
      (inRest : '\r' ∉ others ∧ MeetApart others more ∧ templateValue? marks more = some filled) :
      '\r' ∉ letter :: others ∧ MeetApart (letter :: others) more ∧
        templateValue? marks more = some filled := by
    refine ⟨?_, ?_, inRest.2.2⟩
    · rw [List.mem_cons, not_or]
      exact ⟨ne_comm.mp other, inRest.1⟩
    · cases others with
      | nil => exact fun dollar => last rfl (Option.some.inj dollar)
      | cons second tail => exact inRest.2.1
  fun_induction escapeTemplate text with
  | case1 => exact ⟨List.not_mem_nil, by rintro ⟨⟩, value⟩
  | case2 others ih =>
      have brace : IsPlainLetter '\x7b' := ⟨by decide, by decide, by decide⟩
      rw [List.cons_append, List.cons_append, List.cons_append,
        templateValue?_escape (.inr (.inr rfl)),
        templateValue?_letter brace (fun same => absurd same (by decide))] at value
      have inRest := ih (of_map_cons (of_map_cons value))
      exact step (by decide) (fun none => absurd none (List.cons_ne_nil _ _))
        (step (by decide) (fun _ same => absurd same (by decide)) inRest)
  | case3 letter others unlike special ih =>
      rw [List.cons_append, List.cons_append,
        templateValue?_escape (special.imp_right .inl)] at value
      have inRest := ih (of_map_cons value)
      rcases special with rfl | rfl
      · exact step (by decide) (fun _ same => absurd same (by decide)) inRest
      · exact step (by decide) (fun _ same => absurd same (by decide)) inRest
  | case4 letter others unlike ordinary ih =>
      rw [not_or] at ordinary
      rw [List.cons_append] at value
      by_cases isReturn : letter = '\r'
      · subst isReturn
        rw [templateValue?_return] at value
        obtain ⟨_, _, same⟩ := Option.map_eq_some_iff.mp value
        exact absurd (List.cons.inj same).1 (by decide)
      · by_cases opens : letter = '$' ∧ (escapeTemplate others ++ more).head? = some '\x7b'
        · obtain ⟨rfl, brace⟩ := opens
          obtain ⟨rest, same⟩ := List.head?_eq_some_iff.mp brace
          rw [same] at value
          exact absurd value (templateValue?_marks_ne_dollar rest _)
        · rw [templateValue?_letter ⟨ordinary.2, ordinary.1, isReturn⟩
            fun dollar brace => opens ⟨dollar, brace⟩] at value
          refine step isReturn ?_ (ih (of_map_cons value))
          rintro rfl dollar brace
          exact opens ⟨dollar, brace⟩

/-! ## Filled paths -/

/-- A stretch with the encoded value in the place of a declared parameter. -/
def PathPiece.fill? (declared : List Text) (values : Text → Text) : PathPiece → Option Text
  | .fixed text => some text
  | .placeholder name =>
      if declared.contains name then encodeComponent? (values name)
      else some (PathPiece.placeholder name).source

def fillAll? (declared : List Text) (values : Text → Text) : List PathPiece → Option Text
  | [] => some []
  | piece :: rest => do
      let text ← piece.fill? declared values
      let others ← fillAll? declared values rest
      pure (text ++ others)

/-- The path with the encoded values in the places of the declared parameters. -/
def filledPath? (declared : List Text) (values : Text → Text) (path : Text) : Option Text :=
  fillAll? declared values (cutPath path)

theorem fillAll?_fixed (declared : List Text) (values : Text → Text) (text : Text)
    (rest : List PathPiece) :
    fillAll? declared values (.fixed text :: rest) =
      (fillAll? declared values rest).map (text ++ ·) := by
  cases held : fillAll? declared values rest <;> simp [fillAll?, PathPiece.fill?, held]

/-- What is said about the path has to be said about its stretches. -/
structure IsKeptWhole (declared : List Text) (pieces : List PathPiece) : Prop where
  apart : exposedFrom declared pieces = []
  noReturn : '\r' ∉ pieces.flatMap PathPiece.source
  reads : ∀ name ∈ pieces.filterMap (PathPiece.read? declared), '\n' ∉ name

section Placeholders

variable {declared : List Text} {name more : Text}

theorem meetApart_source : MeetApart ('\x7b' :: (name ++ ['\x7d'])) more := by
  intro dollar
  rw [← List.cons_append, List.getLast?_concat] at dollar
  cases dollar

theorem return_mem_source : '\r' ∈ '\x7b' :: (name ++ ['\x7d']) ↔ '\r' ∈ name := by
  simp

theorem templateValue?_declared (known : name ∈ declared) :
    templateValue? values ((PathPiece.placeholder name).render declared ++ more) =
      if IsLineName name then readValue? values (name, more)
      else if Naming.isPlain name then readValue? values (name.dropLast, more)
      else none := by
  have text : (PathPiece.placeholder name).render declared ++ more =
      '$' :: '\x7b' :: (encodedRead name ++ '\x7d' :: more) := by
    rw [render_declared (List.contains_iff_mem.mpr known)]
    simp
  rw [text, templateValue?_interpolation, encodedMember?_encodedRead]
  split
  · rfl
  · split <;> rfl

theorem fill?_declared (known : name ∈ declared) :
    (PathPiece.placeholder name).fill? declared values = encodeComponent? (values name) :=
  if_pos (List.contains_iff_mem.mpr known)

theorem fill?_undeclared (unknown : name ∉ declared) :
    (PathPiece.placeholder name).fill? declared values = some ('\x7b' :: (name ++ ['\x7d'])) :=
  if_neg (mt List.contains_iff_mem.mp unknown)

/-- A placeholder is read as what it is filled with. -/
theorem templateValue?_placeholder (noReturn : '\r' ∉ name)
    (line : name ∈ declared → '\n' ∉ name) :
    templateValue? values ((PathPiece.placeholder name).render declared ++ more) =
      ((PathPiece.placeholder name).fill? declared values).bind fun text =>
        (templateValue? values more).map (text ++ ·) := by
  by_cases known : name ∈ declared
  · rw [templateValue?_declared known, if_pos ⟨line known, noReturn⟩, fill?_declared known,
      readValue?]
    cases encodeComponent? (values name) with
    | none => rfl
    | some encoded => cases templateValue? values more <;> rfl
  · rw [render_undeclared (mt List.contains_iff_mem.mp known), fill?_undeclared known,
      templateValue?_escapeTemplate (mt return_mem_source.mp noReturn) meetApart_source]
    rfl

/-- A placeholder that is read as what it is filled with has no end of a line in its name, unless
the line feed of a text that is kept. -/
theorem of_templateValue?_placeholder {text filled : Text}
    (fills : (PathPiece.placeholder name).fill? declared marks = some text)
    (value : templateValue? marks ((PathPiece.placeholder name).render declared ++ more) =
      some (text ++ filled)) :
    '\r' ∉ name ∧ (name ∈ declared → '\n' ∉ name) ∧
      templateValue? marks more = some filled := by
  by_cases known : name ∈ declared
  · rw [fill?_declared known, encodeComponent?_marks] at fills
    cases fills
    rw [templateValue?_declared known] at value
    split at value
    · next line =>
        obtain ⟨others, held, same⟩ := readValue?_marks value
        rw [List.append_cancel_left same]
        exact ⟨line.2, fun _ => line.1, held⟩
    · next broken =>
        split at value
        · next plain =>
            obtain ⟨word, identified, rfl | rfl⟩ := Naming.isPlain_iff.mp plain
            · exact absurd (isLineName_of_isIdentifier identified) broken
            · obtain ⟨others, _, same⟩ := readValue?_marks value
              rw [List.dropLast_concat, marks, marks, if_pos (by simp),
                if_neg (Naming.feed_not_mem_of_isIdentifier identified)] at same
              cases same
        · cases value
  · rw [fill?_undeclared known] at fills
    cases fills
    rw [render_undeclared (mt List.contains_iff_mem.mp known)] at value
    obtain ⟨noReturn, _, held⟩ := of_templateValue?_escapeTemplate value
    exact ⟨mt return_mem_source.mpr noReturn, fun declares => absurd declares known, held⟩

end Placeholders

theorem exists_fillAll?_marks (declared : List Text) (pieces : List PathPiece) :
    ∃ filled, fillAll? declared marks pieces = some filled := by
  have each (piece : PathPiece) : ∃ text, piece.fill? declared marks = some text := by
    cases piece with
    | fixed text => exact ⟨text, rfl⟩
    | placeholder name =>
        by_cases known : name ∈ declared
        · exact ⟨_, (fill?_declared known).trans (encodeComponent?_marks name)⟩
        · exact ⟨_, fill?_undeclared known⟩
  induction pieces with
  | nil => exact ⟨[], rfl⟩
  | cons piece rest ih =>
      obtain ⟨text, fills⟩ := each piece
      obtain ⟨others, inRest⟩ := ih
      exact ⟨text ++ others, by simp [fillAll?, fills, inRest]⟩

theorem isKeptWhole_fixed {declared : List Text} {text : Text} :
    IsKeptWhole declared [.fixed text] ↔ '\r' ∉ text := by
  constructor
  · intro whole
    have noReturn := whole.noReturn
    rwa [List.flatMap_singleton] at noReturn
  · intro noReturn
    exact ⟨rfl, by rwa [List.flatMap_singleton], fun _ none => nomatch none⟩

/-- What the conditions say of a stretch and the placeholder after it. -/
theorem isKeptWhole_cons {declared : List Text} {text name : Text} {rest : List PathPiece} :
    IsKeptWhole declared (.fixed text :: .placeholder name :: rest) ↔
      ('\r' ∉ text ∧ (name ∉ declared → text.getLast? ≠ some '$')) ∧
        ('\r' ∉ name ∧ (name ∈ declared → '\n' ∉ name)) ∧
        IsKeptWhole declared rest := by
  have exposes : exposedFrom declared (.fixed text :: .placeholder name :: rest) = [] ↔
      (name ∉ declared → text.getLast? ≠ some '$') ∧
        exposedFrom declared rest = [] := by
    rw [exposedFrom, List.append_eq_nil_iff]
    refine and_congr_left' ?_
    by_cases known : name ∈ declared
    · rw [if_pos (List.contains_iff_mem.mpr known)]
      exact iff_of_true rfl fun unknown => absurd known unknown
    · rw [if_neg (mt List.contains_iff_mem.mp known), imp_iff_right known]
      simp
  have returns : '\r' ∉ (PathPiece.fixed text :: .placeholder name :: rest).flatMap
      PathPiece.source ↔ '\r' ∉ text ∧ '\r' ∉ name ∧ '\r' ∉ rest.flatMap PathPiece.source := by
    simp [PathPiece.source]
  have names : (∀ read ∈ (PathPiece.fixed text :: .placeholder name :: rest).filterMap
      (PathPiece.read? declared), '\n' ∉ read) ↔ (name ∈ declared → '\n' ∉ name) ∧
        ∀ read ∈ rest.filterMap (PathPiece.read? declared), '\n' ∉ read := by
    have fixed : (PathPiece.fixed text).read? declared = none := rfl
    rw [List.filterMap_cons_none fixed]
    by_cases known : name ∈ declared
    · have read : (PathPiece.placeholder name).read? declared = some name :=
        if_pos (List.contains_iff_mem.mpr known)
      rw [List.filterMap_cons_some read, List.forall_mem_cons, imp_iff_right known]
    · have unread : (PathPiece.placeholder name).read? declared = none :=
        if_neg (mt List.contains_iff_mem.mp known)
      rw [List.filterMap_cons_none unread]
      exact (and_iff_right fun declares => absurd declares known).symm
  constructor
  · rintro ⟨apart, noReturn, reads⟩
    obtain ⟨dollar, apart⟩ := exposes.mp apart
    obtain ⟨inText, inName, noReturn⟩ := returns.mp noReturn
    obtain ⟨line, reads⟩ := names.mp reads
    exact ⟨⟨inText, dollar⟩, ⟨inName, line⟩, apart, noReturn, reads⟩
  · rintro ⟨⟨inText, dollar⟩, ⟨inName, line⟩, apart, noReturn, reads⟩
    exact ⟨exposes.mpr ⟨dollar, apart⟩, returns.mpr ⟨inText, inName, noReturn⟩,
      names.mpr ⟨line, reads⟩⟩

/-- Where a placeholder comes next, a dollar sign matters only if the placeholder is kept. -/
theorem meetApart_render {declared : List Text} {text name more : Text} :
    MeetApart text ((PathPiece.placeholder name).render declared ++ more) ↔
      (name ∉ declared → text.getLast? ≠ some '$') := by
  unfold MeetApart
  by_cases known : name ∈ declared
  · rw [render_declared (List.contains_iff_mem.mpr known)]
    exact iff_of_true (fun _ => by simp) fun unknown => absurd known unknown
  · have opens : (escapeTemplate ('\x7b' :: (name ++ ['\x7d'])) ++ more).head? = some '\x7b' := by
      rw [escapeTemplate.eq_3 _ _ (fun _ same => absurd same (by decide)), if_neg (by decide)]
      rfl
    rw [render_undeclared (mt List.contains_iff_mem.mp known), opens, imp_iff_right known]
    simp

/-- If nothing in the stretches is against it, the literal is read as the filled path. -/
theorem templateValue?_pieces {declared : List Text} {pieces : List PathPiece}
    (alternating : IsAlternating pieces) (whole : IsKeptWhole declared pieces)
    (values : Text → Text) :
    templateValue? values (pieces.flatMap (PathPiece.render declared) ++ ['\x60']) =
      fillAll? declared values pieces := by
  fun_induction IsAlternating pieces with
  | case1 text =>
      have noReturn := isKeptWhole_fixed.mp whole
      have apart : MeetApart text ['\x60'] := fun _ => by decide
      rw [List.flatMap_singleton, PathPiece.render, templateValue?_escapeTemplate noReturn apart,
        templateValue?_end]
      rfl
  | case2 text name rest ih =>
      obtain ⟨⟨inText, dollar⟩, ⟨inName, line⟩, inRest⟩ := isKeptWhole_cons.mp whole
      rw [List.flatMap_cons, List.flatMap_cons, List.append_assoc, List.append_assoc,
        PathPiece.render, templateValue?_escapeTemplate inText (meetApart_render.mpr dollar),
        templateValue?_placeholder inName line, ih alternating.2 inRest, fillAll?_fixed, fillAll?]
      cases (PathPiece.placeholder name).fill? declared values with
      | none => rfl
      | some filled => cases fillAll? declared values rest <;> rfl
  | case3 => cases alternating

theorem isKeptWhole_of_value {declared : List Text} {pieces : List PathPiece}
    (alternating : IsAlternating pieces)
    (value : templateValue? marks (pieces.flatMap (PathPiece.render declared) ++ ['\x60']) =
      fillAll? declared marks pieces) : IsKeptWhole declared pieces := by
  fun_induction IsAlternating pieces with
  | case1 text =>
      have filled : fillAll? declared marks [.fixed text] = some (text ++ []) := by
        simp [fillAll?, PathPiece.fill?]
      rw [List.flatMap_singleton, PathPiece.render, filled] at value
      exact isKeptWhole_fixed.mpr (of_templateValue?_escapeTemplate value).1
  | case2 text name rest ih =>
      obtain ⟨filled, fills⟩ := exists_fillAll?_marks declared (.placeholder name :: rest)
      obtain ⟨named, ofName, fillsRest⟩ := Option.bind_eq_some_iff.mp fills
      obtain ⟨others, ofRest, same⟩ := Option.bind_eq_some_iff.mp fillsRest
      cases same
      rw [fillAll?_fixed, fills, List.flatMap_cons, List.flatMap_cons, List.append_assoc,
        List.append_assoc, PathPiece.render] at value
      obtain ⟨inText, apart, value⟩ := of_templateValue?_escapeTemplate value
      obtain ⟨inName, line, value⟩ := of_templateValue?_placeholder ofName value
      exact isKeptWhole_cons.mpr ⟨⟨inText, meetApart_render.mp apart⟩, ⟨inName, line⟩,
        ih alternating.2 (value.trans ofRest.symm)⟩
  | case3 => cases alternating

/-- A path has its pieces, and whatever the values of its parameters, its literal evaluates to the
path with the encoded values in the places of the parameters if and only if no placeholder that is
kept stands right after a dollar sign, the path has no carriage return, and the names of the
parameters in it have no line feeds. -/
theorem pathTemplate_evaluates_iff (declared : List Text) (path : Text) :
    ArePiecesOf path (cutPath path) ∧
      ((∀ values, literalValue? values (pathTemplate declared path) =
        filledPath? declared values path) ↔
        exposed declared path = [] ∧ '\r' ∉ path ∧
          ∀ name ∈ readNames declared path, '\n' ∉ name) := by
  have pieces := arePiecesOf_cutPath path
  refine ⟨pieces, fun evaluates => ?_, fun ⟨apart, noReturn, reads⟩ values => ?_⟩
  · obtain ⟨apart, noReturn, reads⟩ := isKeptWhole_of_value pieces.alternating (evaluates marks)
    rw [pieces.whole] at noReturn
    exact ⟨apart, noReturn, reads⟩
  · rw [← pieces.whole] at noReturn
    exact templateValue?_pieces pieces.alternating ⟨apart, noReturn, reads⟩ values

/-- A kept placeholder after a dollar sign is read as code, a carriage return as a line feed, and a
name with a line feed after an identifier as the identifier. -/
theorem not_evaluates_pathTemplate :
    (∃ values, literalValue? values (pathTemplate [] "/prices/$\x7bunit\x7d") ≠
      filledPath? [] values "/prices/$\x7bunit\x7d") ∧
    (∃ values, literalValue? values (pathTemplate [] "/prices\r") ≠
      filledPath? [] values "/prices\r") ∧
    ∃ values, literalValue? values (pathTemplate ["unit\n"] "/prices/\x7bunit\n\x7d") ≠
      filledPath? ["unit\n"] values "/prices/\x7bunit\n\x7d" := by
  have whole (declared : List Text) (path : Text) (value : literalValue? marks
      (pathTemplate declared path) = filledPath? declared marks path) :
      IsKeptWhole declared (cutPath path) :=
    isKeptWhole_of_value (arePiecesOf_cutPath path).alternating value
  exact ⟨⟨marks, fun value => absurd (whole _ _ value).apart (by decide)⟩,
    ⟨marks, fun value => absurd (whole _ _ value).noReturn (by decide)⟩,
    marks, fun value => absurd (whole _ _ value).reads (by decide)⟩

end ApiForge.TypeScript
