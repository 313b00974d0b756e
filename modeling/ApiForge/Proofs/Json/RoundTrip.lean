import ApiForge.Proofs.Json.Tokens
import ApiForge.Proofs.Success

/-!
# Values, written and read

What is written of a value is read as that value in both layouts, up to the
integers: one with more digits than a number may have is written but refused
when it is read. Nothing but line feeds, visible ASCII characters and the
characters of the value's own texts is written.
-/

namespace ApiForge.Json

/-! ## Records -/

/-- The entries of named fields. -/
def keyed (fields : List (Text × Value)) : Entries :=
  fields.map fun (name, value) => (.str name, value)

theorem isSameKey_texts (first second : Text) :
    Scalar.isSameKey (.str first) (.str second) = decide (first = second) := by
  rw [Bool.eq_iff_iff]
  simp [Scalar.isSameKey, Scalar.number?]

theorem insert_keyed {known : List (Text × Value)} {name : Text} (value : Value)
    (new : name ∉ known.map (·.1)) :
    Entries.insert (.str name) value (keyed known) = keyed (known ++ [(name, value)]) := by
  induction known with
  | nil => rfl
  | cons field known ih =>
      rw [List.map_cons, List.mem_cons, not_or] at new
      have apart : Scalar.isSameKey (.str field.1) (.str name) = false := by
        simpa [isSameKey_texts] using fun same : field.1 = name => new.1 same.symm
      change Entries.insert _ _ ((.str field.1, field.2) :: keyed known) = _
      rw [Entries.insert, if_neg (by simp [apart]), ih new.2]
      rfl

/-- Fields with distinct names are all kept. -/
theorem ofList_keyed {fields : List (Text × Value)} (distinct : (fields.map (·.1)).Nodup) :
    Entries.ofList (keyed fields) = keyed fields := by
  suffices general : ∀ known : List (Text × Value), ((known ++ fields).map (·.1)).Nodup →
      (keyed fields).foldl (fun entries entry => Entries.insert entry.1 entry.2 entries)
        (keyed known) = keyed (known ++ fields) from
    general [] distinct
  clear distinct
  induction fields with
  | nil => exact fun known _ => by rw [List.append_nil]; rfl
  | cons field fields ih =>
      intro known distinct
      have new : field.1 ∉ known.map (·.1) := by
        rw [List.map_append, List.map_cons] at distinct
        exact fun old => (List.nodup_append.mp distinct).2.2 _ old _ List.mem_cons_self rfl
      change (keyed fields).foldl _ (Entries.insert (.str field.1) field.2 (keyed known)) = _
      rw [insert_keyed field.2 new, ih _ (by simpa using distinct)]
      simp

/-! ## Values -/

/-- A value of texts, truth values, integers, nothing, lists and records with distinct names, all
of whose letters are allowed. -/
inductive IsPlain (allowed : Char → Prop) : Value → Prop where
  | null : IsPlain allowed .null
  | bool (value : Bool) : IsPlain allowed (.bool value)
  | int (value : Int) : IsPlain allowed (.int value)
  | str {text : Text} (letters : ∀ letter ∈ text, allowed letter) : IsPlain allowed (.str text)
  | list {items : List Value} (plain : ∀ item ∈ items, IsPlain allowed item) :
      IsPlain allowed (.list items)
  | record {fields : List (Text × Value)} (distinct : (fields.map (·.1)).Nodup)
      (letters : ∀ field ∈ fields, ∀ letter ∈ field.1, allowed letter)
      (plain : ∀ field ∈ fields, IsPlain allowed field.2) : IsPlain allowed (.map (keyed fields))

mutual

/-- Every integer in the value is short enough to be read. -/
def isLegible : Value → Bool
  | .scalar (.int value) => isShort value
  | .scalar _ => true
  | .list items => itemsAreLegible items
  | .map entries => entriesAreLegible entries
  | .set _ => true
  | .pair first second => isLegible first && isLegible second
  termination_by structural value => value

def itemsAreLegible : List Value → Bool
  | [] => true
  | item :: rest => isLegible item && itemsAreLegible rest
  termination_by structural items => items

def entriesAreLegible : List (Scalar × Value) → Bool
  | [] => true
  | (_, item) :: rest => isLegible item && entriesAreLegible rest
  termination_by structural entries => entries

end

/-- A letter of a written value whose texts have allowed letters. -/
def IsWritten (allowed : Char → Prop) (letter : Char) : Prop :=
  letter = '\n' ∨ 0x20 ≤ letter.toNat ∧ (letter.toNat < 0x80 ∨ allowed letter)

/-- The text is a form of the value: it starts like a value, has no other letters than those
written, and is read as the value if that is legible. -/
structure Spells (allowed : Char → Prop) (text : Text) (item : Value) : Prop where
  opens : ∃ first rest, text = first :: rest ∧ isSpace first = false ∧ first ≠ ']' ∧
    first ≠ '\x7d' ∧ first ≠ '\uFEFF'
  letters : ∀ letter ∈ text, IsWritten allowed letter
  read : ∀ {fuel : Nat} {rest : Text}, 2 * text.length ≤ fuel → Ends rest →
    (value fuel (text ++ rest)).toOption = if isLegible item then some (item, rest) else none

theorem toOption_bind {ε α β : Type} (first : Except ε α) (next : α → Except ε β) :
    (first >>= next).toOption = first.toOption.bind fun result => (next result).toOption := by
  cases first <;> rfl

variable {allowed : Char → Prop}

/-! ## Blanks -/

/-- A text of blanks as they are written. -/
def IsBlankRun (blanks : Text) : Prop :=
  ∀ letter ∈ blanks, letter = ' ' ∨ letter = '\n'

theorem IsBlankRun.isSpace {blanks : Text} (blank : IsBlankRun blanks) :
    ∀ letter ∈ blanks, isSpace letter = true := by
  intro letter member
  rcases blank letter member with rfl | rfl <;> rfl

theorem IsBlankRun.isWritten {blanks : Text} (blank : IsBlankRun blanks) :
    ∀ letter ∈ blanks, IsWritten allowed letter := by
  intro letter member
  rcases blank letter member with rfl | rfl
  · exact .inr ⟨by decide, .inl (by decide)⟩
  · exact .inl rfl

theorem skipSpace_append {blanks : Text} (blank : IsBlankRun blanks) (rest : Text) :
    skipSpace (blanks ++ rest) = skipSpace rest :=
  List.dropWhile_append_of_pos blank.isSpace

theorem skipSpace_cons {first : Char} (visible : isSpace first = false) (rest : Text) :
    skipSpace (first :: rest) = first :: rest := by
  simp [skipSpace, visible]

/-- Blanks are skipped up to the first of parts that do not start with one. -/
theorem skipSpace_join {lead part : Text} (blank : IsBlankRun lead)
    (solid : ∀ after, skipSpace (part ++ after) = part ++ after) (separator : Text)
    (parts : List Text) (after : Text) :
    skipSpace (lead ++ (Text.join separator (part :: parts) ++ after)) =
      Text.join separator (part :: parts) ++ after := by
  rw [skipSpace_append blank]
  cases parts with
  | nil => exact solid after
  | cons second parts =>
      rw [Text.join, List.append_assoc, List.append_assoc]
      exact solid _

theorem ends_blanks {blanks rest : Text} (blank : IsBlankRun blanks) (ends : Ends rest) :
    Ends (blanks ++ rest) := by
  cases blanks with
  | nil => exact ends
  | cons letter blanks => exact ends_cons (.inl (blank.isSpace letter List.mem_cons_self))

theorem isBlankRun_newLine (depth : Nat) : IsBlankRun (Layout.newLine depth) := by
  intro letter member
  rcases List.mem_cons.mp member with rfl | space
  · exact .inr rfl
  · exact .inl (List.eq_of_mem_replicate space)

/-- Both layouts put blanks after the opening bracket, after each comma and before the closing
bracket. -/
theorem exists_brackets (layout : Layout) (depth : Nat) (opening closing : Char) (part : Text)
    (parts : List Text) :
    ∃ lead gap tail, IsBlankRun lead ∧ IsBlankRun gap ∧ IsBlankRun tail ∧
      layout.brackets depth opening closing (part :: parts) =
        opening :: (lead ++ (Text.join (',' :: gap) (part :: parts) ++ (tail ++ [closing]))) := by
  have none : IsBlankRun [] := fun _ member => nomatch member
  cases layout with
  | line => exact ⟨[], [' '], [], none, by simp [IsBlankRun], none, by simp [Layout.brackets]⟩
  | indented =>
      exact ⟨_, _, _, isBlankRun_newLine (depth + 1), isBlankRun_newLine (depth + 1),
        isBlankRun_newLine depth, by simp [Layout.brackets]⟩

/-! ## Scalars -/

theorem value_of_plain_first {first : Char} (rest : Text) (noText : first ≠ '"')
    (noRecord : first ≠ '\x7b') (noList : first ≠ '[') (fuel : Nat) :
    value (fuel + 1) (first :: rest) = simple (first :: rest) := by
  rw [value.eq_def]
  simp only
  split <;> simp_all

theorem isWritten_of_isDigit {letter : Char} (digit : letter.isDigit = true) :
    IsWritten allowed letter := by
  have bounds : 48 ≤ letter.toNat ∧ letter.toNat ≤ 57 := by
    simpa [Char.isDigit, UInt32.le_iff_toNat_le] using digit
  exact .inr ⟨by omega, .inl (by omega)⟩

/-- What a number starts with starts nothing else. -/
theorem opens_of_number {first : Char} (number : first = '-' ∨ first.isDigit = true) :
    (isSpace first = false ∧ first ≠ ']' ∧ first ≠ '\x7d' ∧ first ≠ '\uFEFF') ∧
      first ≠ '"' ∧ first ≠ '\x7b' ∧ first ≠ '[' := by
  rcases number with rfl | digit
  · decide
  · have blank : isSpace first = false := by
      rw [Bool.eq_false_iff]
      intro blank
      simp only [isSpace, Bool.or_eq_true, beq_iff_eq] at blank
      rcases blank with ((rfl | rfl) | rfl) | rfl <;> cases digit
    refine ⟨⟨blank, ?_, ?_, ?_⟩, ?_, ?_, ?_⟩ <;> (rintro rfl; cases digit)

theorem spells_ofInt (number : Int) : Spells allowed (Text.ofInt number) (.int number) := by
  obtain ⟨first, others, spelled, start⟩ : ∃ first rest, Text.ofInt number = first :: rest ∧
      (first = '-' ∨ first.isDigit = true) := by
    rcases ofInt_cases number with ⟨digit, rest, spelled, isDigit, _⟩ | ⟨digit, rest, spelled, _⟩
    · exact ⟨digit, rest, spelled, .inr isDigit⟩
    · exact ⟨'-', digit :: rest, spelled, .inl rfl⟩
  obtain ⟨opens, noText, noRecord, noList⟩ := opens_of_number start
  refine ⟨⟨first, others, spelled, opens⟩, ?_, ?_⟩
  · intro letter member
    rcases ofInt_cases number with ⟨_, _, _, _, form, _⟩ | ⟨_, _, _, _, form, _⟩
    · exact isWritten_of_isDigit (isDigit_of_mem_ofNat (form ▸ member))
    · rw [form] at member
      rcases List.mem_cons.mp member with rfl | digit
      · exact .inr ⟨by decide, .inl (by decide)⟩
      · exact isWritten_of_isDigit (isDigit_of_mem_ofNat digit)
  · intro fuel rest enough ends
    obtain ⟨fuel, rfl⟩ : ∃ less, fuel = less + 1 := ⟨fuel - 1, by simp [spelled] at enough; omega⟩
    have read := simple_ofInt number ends
    rw [spelled, List.cons_append] at read ⊢
    rw [value_of_plain_first _ noText noRecord noList, read]
    rfl

/-- A word of small letters is read as the first value that it stands for. -/
theorem spells_word {word : Text} {scalar : Scalar} (some' : word ≠ [])
    (small : word.all fun letter => 0x61 ≤ letter.toNat ∧ letter.toNat < 0x7b)
    (legible : isLegible (.scalar scalar) = true)
    (known : ∀ rest, (words.find? fun other => Text.startsWith (word ++ rest) other.1) =
      some (word, scalar)) : Spells allowed word (.scalar scalar) := by
  obtain ⟨first, others, rfl⟩ := List.exists_cons_of_ne_nil some'
  have bounds : ∀ letter ∈ first :: others, 0x61 ≤ letter.toNat ∧ letter.toNat < 0x7b :=
    fun letter member => of_decide_eq_true (List.all_eq_true.mp small letter member)
  obtain ⟨least, most⟩ := bounds first List.mem_cons_self
  have apart (other : Char) (low : other.toNat < 0x61 ∨ 0x7b ≤ other.toNat) : first ≠ other := by
    rintro rfl
    omega
  have blank : isSpace first = false := by
    simp [isSpace, apart ' ' (by decide), apart '\t' (by decide), apart '\n' (by decide),
      apart '\r' (by decide)]
  refine ⟨⟨first, others, rfl, blank, apart _ (by decide), apart _ (by decide),
    apart _ (by decide)⟩, ?_, ?_⟩
  · intro letter member
    obtain ⟨least, most⟩ := bounds letter member
    exact .inr ⟨by omega, .inl (by omega)⟩
  · intro fuel rest enough _
    obtain ⟨fuel, rfl⟩ : ∃ less, fuel = less + 1 := ⟨fuel - 1, by simp at enough; omega⟩
    rw [List.cons_append, value_of_plain_first _ (apart _ (by decide)) (apart _ (by decide))
      (apart _ (by decide)), simple, ← List.cons_append, known rest, if_pos legible]
    simp [Except.toOption]

theorem spells_null : Spells allowed "null" .null :=
  spells_word (by decide) rfl rfl fun rest => by
    simp [words, Text.startsWith, List.isPrefixOf]

theorem spells_true : Spells allowed "true" (.bool true) :=
  spells_word (by decide) rfl rfl fun rest => by
    simp [words, Text.startsWith, List.isPrefixOf]

theorem spells_false : Spells allowed "false" (.bool false) :=
  spells_word (by decide) rfl rfl fun rest => by
    simp [words, Text.startsWith, List.isPrefixOf]

theorem isWritten_of_mem_hex {number : Nat} (control : number < 0x20) {letter : Char}
    (member : letter ∈ Text.hex 4 number) : IsWritten allowed letter := by
  have visible : ∀ number < 0x20, (Text.hex 4 number).all fun letter =>
      0x20 ≤ letter.toNat ∧ letter.toNat < 0x80 := by
    decide
  obtain ⟨least, most⟩ :=
    of_decide_eq_true (List.all_eq_true.mp (visible number control) letter member)
  exact .inr ⟨least, .inl most⟩

theorem isWritten_of_mem_escapeChar {letter written : Char} (held : allowed letter)
    (member : written ∈ escapeChar false letter) : IsWritten allowed written := by
  obtain ⟨mark, _, _, least, most, spelled⟩ | ⟨control, spelled⟩ | ⟨visible, _, _, spelled⟩ :=
    escapeChar_cases letter
  · rw [spelled] at member
    simp only [List.mem_cons, List.not_mem_nil, or_false] at member
    rcases member with rfl | rfl
    · exact .inr ⟨by decide, .inl (by decide)⟩
    · exact .inr ⟨least, .inl most⟩
  · rw [spelled] at member
    rcases List.mem_append.mp member with start | digit
    · rcases List.mem_pair.mp start with rfl | rfl
      · exact .inr ⟨by decide, .inl (by decide)⟩
      · exact .inr ⟨by decide, .inl (by decide)⟩
    · exact isWritten_of_mem_hex control digit
  · rw [spelled, List.mem_singleton] at member
    subst member
    exact .inr ⟨visible, .inr held⟩

theorem isWritten_of_mem_quote {text : Text} (letters : ∀ letter ∈ text, allowed letter)
    {written : Char} (member : written ∈ quote false text) : IsWritten allowed written := by
  have mark : IsWritten allowed '"' := .inr ⟨by decide, .inl (by decide)⟩
  rcases List.mem_append.mp member with start | final
  · rcases List.mem_cons.mp start with rfl | inside
    · exact mark
    · obtain ⟨letter, given, spelled⟩ := List.mem_flatMap.mp inside
      exact isWritten_of_mem_escapeChar (letters letter given) spelled
  · rw [List.mem_singleton.mp final]
    exact mark

theorem spells_quote {text : Text} (letters : ∀ letter ∈ text, allowed letter) :
    Spells allowed (quote false text) (.str text) := by
  refine ⟨⟨'"', text.flatMap (escapeChar false) ++ ['"'], rfl, by decide⟩,
    fun _ => isWritten_of_mem_quote letters, ?_⟩
  intro fuel rest enough ends
  have length := length_add_two_le_quote text
  obtain ⟨fuel, rfl⟩ : ∃ less, fuel = less + 1 := ⟨fuel - 1, by omega⟩
  obtain ⟨after, spelled, read⟩ := string_of_quote text rest fuel (by omega)
  simp only [spelled, value, read, bind, Except.bind]
  rfl

/-! ## Lists and records -/

theorem length_of_spells {text : Text} {item : Value} (spells : Spells allowed text item) :
    1 ≤ text.length := by
  obtain ⟨first, rest, rfl, _⟩ := spells.opens
  simp

/-- There are no blanks to skip before a form. -/
theorem skipSpace_of_spells {text : Text} {item : Value} (spells : Spells allowed text item)
    (after : Text) : skipSpace (text ++ after) = text ++ after := by
  obtain ⟨first, rest, rfl, visible, _⟩ := spells.opens
  exact skipSpace_cons visible _

theorem elements_last {text : Text} {item : Value} (spells : Spells allowed text item)
    {tail : Text} (blank : IsBlankRun tail) {fuel : Nat} (enough : 2 * text.length ≤ fuel)
    (rest : Text) :
    (elements (fuel + 1) (text ++ (tail ++ ']' :: rest))).toOption =
      if isLegible item then some ([item], rest) else none := by
  have closes : skipSpace (tail ++ ']' :: rest) = ']' :: rest := by
    rw [skipSpace_append blank, skipSpace_cons (by decide)]
  rw [elements, toOption_bind,
    spells.read enough (ends_blanks blank (ends_cons (.inr (.inr (.inl rfl)))))]
  cases isLegible item <;> simp [closes, Except.toOption, pure, Except.pure]

theorem elements_next {text : Text} {item : Value} (spells : Spells allowed text item)
    {fuel : Nat} (enough : 2 * text.length ≤ fuel) (after : Text) :
    (elements (fuel + 1) (text ++ (',' :: after))).toOption =
      if isLegible item then
        (elements fuel (skipSpace after)).toOption.map fun (others, rest) => (item :: others, rest)
      else none := by
  rw [elements, toOption_bind, spells.read enough (ends_cons (.inr (.inl rfl)))]
  cases isLegible item with
  | false => rfl
  | true =>
      rw [if_pos rfl, if_pos rfl, Option.bind_some]
      dsimp only
      rw [skipSpace_cons (by decide)]
      change (elements fuel (skipSpace after) >>= _).toOption = _
      rw [toOption_bind]
      cases elements fuel (skipSpace after) <;> rfl

/-- Forms with commas between them are read as elements up to the closing bracket. -/
theorem elements_join {gap tail : Text} (gapBlank : IsBlankRun gap) (tailBlank : IsBlankRun tail)
    {texts : List Text} {items : List Value} (spells : List.Forall₂ (Spells allowed) texts items)
    (some' : texts ≠ []) {fuel : Nat} (rest : Text)
    (enough : 2 * (Text.join (',' :: gap) texts).length + 1 ≤ fuel) :
    (elements fuel (Text.join (',' :: gap) texts ++ (tail ++ ']' :: rest))).toOption =
      if itemsAreLegible items then some (items, rest) else none := by
  induction spells generalizing fuel with
  | nil => exact absurd rfl some'
  | @cons text item texts items first others ih =>
      obtain ⟨fuel, rfl⟩ : ∃ less, fuel = less + 1 := ⟨fuel - 1, by omega⟩
      cases others with
      | nil =>
          rw [Text.join, elements_last first tailBlank (by simp only [Text.join] at enough; omega),
            itemsAreLegible, itemsAreLegible, Bool.and_true]
      | @cons second next texts items secondSpells others =>
          have length := length_of_spells first
          simp only [Text.join, List.length_append, List.length_cons] at enough
          simp only [Text.join, List.append_assoc, List.cons_append]
          rw [elements_next first (by omega),
            skipSpace_join gapBlank (skipSpace_of_spells secondSpells), ih (by simp) (by omega)]
          change _ = if isLegible item && itemsAreLegible (next :: items) then _ else _
          cases isLegible item <;> cases itemsAreLegible (next :: items) <;> rfl

/-- The part is the form of a field: its name in quotes and the form of its value. -/
def SpellsField (allowed : Char → Prop) (part : Text) (field : Text × Value) : Prop :=
  ∃ text, part = quote false field.1 ++ ": " ++ text ∧ (∀ letter ∈ field.1, allowed letter) ∧
    Spells allowed text field.2

/-- What a member is read as, given what is read behind its value. -/
theorem members_field {part : Text} {field : Text × Value} (spells : SpellsField allowed part field)
    {fuel : Nat} (enough : 2 * part.length ≤ fuel) {after : Text} (ends : Ends after) :
    (members (fuel + 1) (part ++ after)).toOption =
      if isLegible field.2 then
        (match skipSpace after with
          | '\x7d' :: rest => pure ([(.str field.1, field.2)], rest)
          | ',' :: rest => do
              let (others, rest) ← members fuel (skipSpace rest)
              pure ((.str field.1, field.2) :: others, rest)
          | rest => stop .expectedComma rest : Except Stop (Entries × Text)).toOption
      else none := by
  obtain ⟨text, rfl, _, spells⟩ := spells
  have length := length_add_two_le_quote field.1
  simp only [List.length_append] at enough
  obtain ⟨quoted, start, named⟩ := string_of_quote field.1 (": " ++ text ++ after) fuel (by omega)
  have colon : skipSpace (": " ++ text ++ after) = ':' :: ' ' :: (text ++ after) :=
    skipSpace_cons (by decide) _
  have opens : skipSpace (' ' :: (text ++ after)) = text ++ after :=
    (skipSpace_append (show IsBlankRun [' '] by simp [IsBlankRun]) _).trans
      (skipSpace_of_spells spells _)
  rw [List.append_assoc, List.append_assoc, ← List.append_assoc _ text after, start, members]
  simp only [named, colon, opens, bind, Except.bind, pure, Except.pure]
  have read := spells.read (show 2 * text.length ≤ fuel by omega) ends
  cases legible : isLegible field.2 with
  | false =>
      rw [legible] at read
      cases found : value fuel (text ++ after) with
      | error halt => rfl
      | ok result => rw [found] at read; cases read
  | true =>
      rw [legible] at read
      cases found : value fuel (text ++ after) with
      | error halt => rw [found] at read; cases read
      | ok result =>
          rw [found] at read
          cases read
          rfl

theorem skipSpace_of_spellsField {part : Text} {field : Text × Value}
    (spells : SpellsField allowed part field) (after : Text) :
    skipSpace (part ++ after) = part ++ after := by
  obtain ⟨text, rfl, _⟩ := spells
  exact skipSpace_cons (by decide) _

/-- Fields with commas between them are read as members up to the closing brace. -/
theorem members_join {gap tail : Text} (gapBlank : IsBlankRun gap) (tailBlank : IsBlankRun tail)
    {parts : List Text} {fields : List (Text × Value)}
    (spells : List.Forall₂ (SpellsField allowed) parts fields) (some' : parts ≠ []) {fuel : Nat}
    (rest : Text) (enough : 2 * (Text.join (',' :: gap) parts).length + 1 ≤ fuel) :
    (members fuel (Text.join (',' :: gap) parts ++ (tail ++ '\x7d' :: rest))).toOption =
      if entriesAreLegible (keyed fields) then some (keyed fields, rest) else none := by
  induction spells generalizing fuel with
  | nil => exact absurd rfl some'
  | @cons part field parts fields first others ih =>
      obtain ⟨fuel, rfl⟩ : ∃ less, fuel = less + 1 := ⟨fuel - 1, by omega⟩
      change _ = if isLegible field.2 && entriesAreLegible (keyed fields) then _ else _
      cases others with
      | nil =>
          have closes : skipSpace (tail ++ '\x7d' :: rest) = '\x7d' :: rest := by
            rw [skipSpace_append tailBlank, skipSpace_cons (by decide)]
          rw [Text.join, members_field first (by simp only [Text.join] at enough; omega)
            (ends_blanks tailBlank (ends_cons (.inr (.inr (.inr rfl))))), closes]
          cases isLegible field.2 <;> rfl
      | @cons second next parts fields secondSpells others =>
          have length : 1 ≤ part.length := by
            obtain ⟨text, rfl, _⟩ := first
            have := length_add_two_le_quote field.1
            simp only [List.length_append]
            omega
          simp only [Text.join, List.length_append, List.length_cons] at enough
          have opens := skipSpace_join gapBlank
            (skipSpace_of_spellsField secondSpells) (',' :: gap) parts (tail ++ '\x7d' :: rest)
          have shorter : 2 * (Text.join (',' :: gap) (second :: parts)).length + 1 ≤ fuel := by
            omega
          have read := ih (by simp) shorter
          simp only [Text.join, List.append_assoc, List.cons_append]
          rw [members_field first (by omega) (ends_cons (.inr (.inl rfl))),
            skipSpace_cons (by decide)]
          cases isLegible field.2 with
          | false => rfl
          | true =>
              change (members fuel (skipSpace _) >>= _).toOption = _
              rw [opens, toOption_bind, read]
              cases entriesAreLegible (keyed (next :: fields)) <;> rfl

theorem isWritten_of_mem_join {gap : Text} (blank : IsBlankRun gap) {parts : List Text}
    (written : ∀ part ∈ parts, ∀ letter ∈ part, IsWritten allowed letter) {letter : Char}
    (member : letter ∈ Text.join (',' :: gap) parts) : IsWritten allowed letter := by
  induction parts with
  | nil => cases member
  | cons part parts ih =>
      cases parts with
      | nil => exact written part List.mem_cons_self letter member
      | cons second parts =>
          rw [Text.join, List.append_assoc] at member
          rcases List.mem_append.mp member with first | others
          · exact written part List.mem_cons_self letter first
          rcases List.mem_append.mp others with separator | others
          · rcases List.mem_cons.mp separator with rfl | space
            · exact .inr ⟨by decide, .inl (by decide)⟩
            · exact blank.isWritten letter space
          · exact ih (fun part member => written part (List.mem_cons_of_mem _ member)) others

/-- What stands between brackets is written if the parts and the brackets are. -/
theorem isWritten_of_mem_brackets (layout : Layout) (depth : Nat) {opening closing : Char}
    (first : IsWritten allowed opening) (last : IsWritten allowed closing) {parts : List Text}
    (written : ∀ part ∈ parts, ∀ letter ∈ part, IsWritten allowed letter) {letter : Char}
    (member : letter ∈ layout.brackets depth opening closing parts) : IsWritten allowed letter := by
  cases parts with
  | nil =>
      have pair : letter ∈ [opening, closing] := by cases layout <;> exact member
      rcases List.mem_cons.mp pair with rfl | other
      · exact first
      · rw [List.mem_singleton.mp other]
        exact last
  | cons part parts =>
      obtain ⟨lead, gap, tail, leadBlank, gapBlank, tailBlank, spelled⟩ :=
        exists_brackets layout depth opening closing part parts
      simp only [spelled, List.mem_cons, List.mem_append, List.not_mem_nil, or_false] at member
      rcases member with rfl | before | inside | after | rfl
      · exact first
      · exact leadBlank.isWritten letter before
      · exact isWritten_of_mem_join gapBlank written inside
      · exact tailBlank.isWritten letter after
      · exact last

theorem brackets_nil (layout : Layout) (depth : Nat) (opening closing : Char) :
    layout.brackets depth opening closing [] = [opening, closing] := by
  cases layout <;> rfl

/-- Brackets open with the opening one. -/
theorem exists_brackets_eq_cons (layout : Layout) (depth : Nat) (opening closing : Char)
    (parts : List Text) :
    ∃ rest, layout.brackets depth opening closing parts = opening :: rest := by
  cases parts with
  | nil => exact ⟨_, brackets_nil layout depth opening closing⟩
  | cons part parts =>
      obtain ⟨_, _, _, _, _, _, spelled⟩ := exists_brackets layout depth opening closing part parts
      exact ⟨_, spelled⟩

theorem isWritten_of_visible {letter : Char} (least : 0x20 ≤ letter.toNat)
    (most : letter.toNat < 0x80) : IsWritten allowed letter :=
  .inr ⟨least, .inl most⟩

theorem value_list {rest : Text} (more : ∀ after, skipSpace rest ≠ ']' :: after) (fuel : Nat) :
    (value (fuel + 1) ('[' :: rest)).toOption =
      (elements fuel (skipSpace rest)).toOption.map (Prod.map .list id) := by
  simp only [value]
  rw [toOption_bind]
  cases elements fuel (skipSpace rest) <;> rfl

theorem value_record {rest : Text} (more : ∀ after, skipSpace rest ≠ '\x7d' :: after) (fuel : Nat) :
    (value (fuel + 1) ('\x7b' :: rest)).toOption =
      (members fuel (skipSpace rest)).toOption.map (Prod.map (.map ∘ Entries.ofList) id) := by
  simp only [value]
  rw [toOption_bind]
  cases members fuel (skipSpace rest) <;> rfl

/-- The letters of forms in brackets. -/
theorem isWritten_of_forall₂ {α : Type} {related : Text → α → Prop} {texts : List Text}
    {items : List α} (spells : List.Forall₂ related texts items)
    (written : ∀ text item, related text item → ∀ letter ∈ text, IsWritten allowed letter)
    {text : Text} (member : text ∈ texts) : ∀ letter ∈ text, IsWritten allowed letter := by
  obtain ⟨item, _, here⟩ := Success.exists_of_forall₂ spells.flip member
  exact written text item here

theorem spells_list (layout : Layout) (depth : Nat) {texts : List Text} {items : List Value}
    (spells : List.Forall₂ (Spells allowed) texts items) :
    Spells allowed (layout.brackets depth '[' ']' texts) (.list items) := by
  obtain ⟨inside, opens⟩ := exists_brackets_eq_cons layout depth '[' ']' texts
  refine ⟨⟨'[', inside, opens, by decide⟩, ?_, ?_⟩
  · intro letter
    exact isWritten_of_mem_brackets layout depth (isWritten_of_visible (by decide) (by decide))
      (isWritten_of_visible (by decide) (by decide))
      fun text member => isWritten_of_forall₂ spells (fun _ _ spells => spells.letters) member
  · intro fuel rest enough _
    obtain ⟨fuel, rfl⟩ : ∃ less, fuel = less + 1 := ⟨fuel - 1, by simp [opens] at enough; omega⟩
    cases spells with
    | nil =>
        rw [brackets_nil]
        rfl
    | @cons text item texts items first others =>
        obtain ⟨lead, gap, tail, leadBlank, gapBlank, tailBlank, spelled⟩ :=
          exists_brackets layout depth '[' ']' text texts
        rw [spelled] at enough ⊢
        simp only [List.length_append, List.length_cons] at enough
        have starts := skipSpace_join leadBlank (skipSpace_of_spells first)
          (',' :: gap) texts (tail ++ ']' :: rest)
        obtain ⟨start, after, begins, _, noEnd, _⟩ := first.opens
        simp only [List.cons_append, List.append_assoc, List.nil_append]
        rw [value_list, starts, elements_join gapBlank tailBlank (.cons first others)
          (by simp) rest (by omega)]
        · change _ = if itemsAreLegible (item :: items) then _ else _
          cases itemsAreLegible (item :: items) <;> rfl
        · intro other
          rw [starts]
          cases texts <;> simp [Text.join, begins, noEnd]

theorem spells_record (layout : Layout) (depth : Nat) {parts : List Text}
    {fields : List (Text × Value)} (distinct : (fields.map (·.1)).Nodup)
    (spells : List.Forall₂ (SpellsField allowed) parts fields) :
    Spells allowed (layout.brackets depth '\x7b' '\x7d' parts) (.map (keyed fields)) := by
  obtain ⟨inside, opens⟩ := exists_brackets_eq_cons layout depth '\x7b' '\x7d' parts
  refine ⟨⟨'\x7b', inside, opens, by decide⟩, ?_, ?_⟩
  · intro letter
    refine isWritten_of_mem_brackets layout depth (isWritten_of_visible (by decide) (by decide))
      (isWritten_of_visible (by decide) (by decide))
      fun part member => isWritten_of_forall₂ spells ?_ member
    rintro part field ⟨text, rfl, letters, spells⟩ letter member
    rcases List.mem_append.mp member with start | inside
    · rcases List.mem_append.mp start with name | colon
      · exact isWritten_of_mem_quote letters name
      · rcases List.mem_pair.mp colon with rfl | rfl
        · exact isWritten_of_visible (by decide) (by decide)
        · exact isWritten_of_visible (by decide) (by decide)
    · exact spells.letters letter inside
  · intro fuel rest enough _
    obtain ⟨fuel, rfl⟩ : ∃ less, fuel = less + 1 := ⟨fuel - 1, by simp [opens] at enough; omega⟩
    have kept := ofList_keyed distinct
    cases spells with
    | nil =>
        rw [brackets_nil]
        rfl
    | @cons part field parts fields first others =>
        obtain ⟨lead, gap, tail, leadBlank, gapBlank, tailBlank, spelled⟩ :=
          exists_brackets layout depth '\x7b' '\x7d' part parts
        rw [spelled] at enough ⊢
        simp only [List.length_append, List.length_cons] at enough
        have starts := skipSpace_join leadBlank
          (skipSpace_of_spellsField first) (',' :: gap) parts (tail ++ '\x7d' :: rest)
        have begins : ∃ after, part = '"' :: after := by
          obtain ⟨text, spelled, _⟩ := first
          exact ⟨_, spelled⟩
        obtain ⟨after, begins⟩ := begins
        simp only [List.cons_append, List.append_assoc, List.nil_append]
        rw [value_record, starts, members_join gapBlank tailBlank
          (.cons first others) (by simp) rest (by omega)]
        · change _ = if entriesAreLegible (keyed (field :: fields)) then _ else _
          cases entriesAreLegible (keyed (field :: fields)) with
          | false => rfl
          | true => simp [kept]
        · intro other
          rw [starts]
          cases parts <;> simp [Text.join, begins]

/-! ## Documents -/

theorem exists_formItems? {related : Text → Value → Prop} {layout : Layout} {depth : Nat}
    {items : List Value}
    (formed : ∀ item ∈ items, ∃ text, form? layout false depth item = some text ∧
      related text item) :
    ∃ texts, formItems? layout false depth items = some texts ∧
      List.Forall₂ related texts items := by
  induction items with
  | nil => exact ⟨[], rfl, .nil⟩
  | cons item items ih =>
      obtain ⟨text, form, here⟩ := formed item List.mem_cons_self
      obtain ⟨texts, forms, others⟩ := ih fun item member => formed item (List.mem_cons_of_mem _ member)
      exact ⟨text :: texts, by simp [formItems?, form, forms], .cons here others⟩

theorem exists_formEntries? {related : Text → Text × Value → Prop} {layout : Layout} {depth : Nat}
    {fields : List (Text × Value)}
    (formed : ∀ field ∈ fields, ∃ text, form? layout false depth field.2 = some text ∧
      related (quote false field.1 ++ ": " ++ text) field) :
    ∃ parts, formEntries? layout false depth (keyed fields) = some parts ∧
      List.Forall₂ related parts fields := by
  induction fields with
  | nil => exact ⟨[], rfl, .nil⟩
  | cons field fields ih =>
      obtain ⟨text, form, here⟩ := formed field List.mem_cons_self
      obtain ⟨parts, forms, others⟩ := ih
        (fun field member => formed field (List.mem_cons_of_mem _ member))
      refine ⟨(quote false field.1 ++ ": " ++ text) :: parts, ?_, .cons here others⟩
      change (do
        let key ← some (quote false field.1)
        let item ← form? layout false depth field.2
        let others ← formEntries? layout false depth (keyed fields)
        pure ((key ++ ": " ++ item) :: others)) = _
      rw [form, forms]
      rfl

/-- A plain value has a form at every depth. -/
theorem IsPlain.exists_form? {item : Value} (plain : IsPlain allowed item) (layout : Layout)
    (depth : Nat) : ∃ text, form? layout false depth item = some text ∧ Spells allowed text item := by
  induction plain generalizing depth with
  | null => exact ⟨_, rfl, spells_null⟩
  | bool value =>
      cases value with
      | true => exact ⟨_, rfl, spells_true⟩
      | false => exact ⟨_, rfl, spells_false⟩
  | int value => exact ⟨_, rfl, spells_ofInt value⟩
  | str letters => exact ⟨_, rfl, spells_quote letters⟩
  | @list items _ ih =>
      obtain ⟨texts, forms, spells⟩ := exists_formItems? fun item member => ih item member (depth + 1)
      exact ⟨_, by rw [form?, forms]; rfl, spells_list layout depth spells⟩
  | @record fields distinct letters _ ih =>
      have formed : ∀ field ∈ fields, ∃ text, form? layout false (depth + 1) field.2 = some text ∧
          SpellsField allowed (quote false field.1 ++ ": " ++ text) field := by
        intro field member
        obtain ⟨text, form, spells⟩ := ih field member (depth + 1)
        exact ⟨text, form, text, rfl, letters field member, spells⟩
      obtain ⟨parts, forms, spells⟩ := exists_formEntries? formed
      exact ⟨_, by rw [form?, forms]; rfl, spells_record layout depth distinct spells⟩

/-- A form with blanks behind it is the document of its value, if that is legible. -/
theorem Spells.read_append {text : Text} {item : Value} (spells : Spells allowed text item)
    {tail : Text} (blank : IsBlankRun tail) :
    (Json.read (text ++ tail)).toOption = if isLegible item then some item else none := by
  obtain ⟨first, others, spelled, visible, _, _, noMark⟩ := spells.opens
  have opens : skipSpace (text ++ tail) = text ++ tail := skipSpace_of_spells spells tail
  have ends : Ends tail := by
    rw [← List.append_nil tail]
    exact ends_blanks blank ends_nil
  have closes : skipSpace tail = [] := by
    have := skipSpace_append blank []
    rwa [List.append_nil] at this
  have result : (document (text ++ tail)).toOption = if isLegible item then some item else none := by
    have unmarked : ∀ rest, text ++ tail = '\uFEFF' :: rest → False := by
      intro rest same
      rw [spelled, List.cons_append] at same
      exact noMark (List.cons.inj same).1
    rw [document]
    · rw [opens, toOption_bind, spells.read (by simp only [List.length_append]; omega) ends]
      cases isLegible item <;> simp [closes, Except.toOption, pure, Except.pure]
    · exact unmarked
  rw [Json.read]
  cases found : document (text ++ tail) with
  | ok found' => rw [found] at result; exact result
  | error halt => rw [found] at result; exact result

end ApiForge.Json
