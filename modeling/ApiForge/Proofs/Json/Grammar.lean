import ApiForge.Proofs.Json.RoundTrip

/-!
# The grammar of documents

What a text denotes by the grammar of JSON, in the part of it without fractions
and powers. Every plain value is denoted by its written form, in both layouts.
-/

namespace ApiForge.Json

/-! ## Grammar -/

/-- Blanks, which may stand between the parts of a document. -/
def IsBlank (blanks : Text) : Prop :=
  ∀ letter ∈ blanks, isSpace letter = true

/-- Digits without leading zeros. -/
structure IsNatural (digits : Text) (number : Nat) : Prop where
  filled : digits ≠ []
  decimal : ∀ letter ∈ digits, letter.isDigit = true
  leading : digits.head? = some '0' → digits = ['0']
  value : Nat.ofDigitChars 10 digits 0 = number

/-- What stands between the quotes of a string: characters as they are, but no controls, quotes or
backslashes; escapes of one letter; and numbered characters. -/
inductive DenotesString : Text → Text → Prop where
  | empty : DenotesString [] []
  | plain {letter : Char} {body text : Text} (visible : 0x20 ≤ letter.toNat)
      (noQuote : letter ≠ '"') (noMark : letter ≠ '\\') (others : DenotesString body text) :
      DenotesString (letter :: body) (letter :: text)
  | escaped {mark letter : Char} {body text : Text} (known : escaped? mark = some letter)
      (others : DenotesString body text) :
      DenotesString ('\\' :: mark :: body) (letter :: text)
  | numbered {digits : Text} {letter : Char} {body text : Text}
      (known : hexQuad? digits = some (letter.toNat, []))
      (others : DenotesString body text) :
      DenotesString ('\\' :: 'u' :: (digits ++ body)) (letter :: text)

/-- Parts with commas between them and blanks around each. -/
inductive Separated {α : Type} (denotes : Text → α → Prop) : Text → List α → Prop where
  | last {before text after : Text} {part : α} (opens : IsBlank before)
      (here : denotes text part) (closes : IsBlank after) :
      Separated denotes (before ++ (text ++ after)) [part]
  | next {before text after rest : Text} {part : α} {parts : List α} (opens : IsBlank before)
      (here : denotes text part) (closes : IsBlank after)
      (others : Separated denotes rest parts) :
      Separated denotes (before ++ (text ++ (after ++ ',' :: rest))) (part :: parts)

mutual

/-- The value that a text denotes. -/
inductive Denotes : Text → Value → Prop where
  | null : Denotes "null" .null
  | true : Denotes "true" (.bool .true)
  | false : Denotes "false" (.bool .false)
  | natural {digits : Text} {number : Nat} (spelled : IsNatural digits number) :
      Denotes digits (.int number)
  | negative {digits : Text} {number : Nat} (spelled : IsNatural digits number) :
      Denotes ('-' :: digits) (.int (-number))
  | string {body text : Text} (spelled : DenotesString body text) :
      Denotes ('"' :: (body ++ ['"'])) (.str text)
  | emptyList {blanks : Text} (blank : IsBlank blanks) : Denotes ('[' :: (blanks ++ [']'])) (.list [])
  | list {inside : Text} {items : List Value} (parts : Separated Denotes inside items) :
      Denotes ('[' :: (inside ++ [']'])) (.list items)
  | emptyRecord {blanks : Text} (blank : IsBlank blanks) :
      Denotes ('\x7b' :: (blanks ++ ['\x7d'])) (.map [])
  | record {inside : Text} {fields : List (Text × Value)} (distinct : (fields.map (·.1)).Nodup)
      (parts : Separated DenotesField inside fields) :
      Denotes ('\x7b' :: (inside ++ ['\x7d'])) (.map (keyed fields))

/-- The name and the value that a member of a record denotes. -/
inductive DenotesField : Text → Text × Value → Prop where
  | field {body name before after text : Text} {item : Value} (named : DenotesString body name)
      (opens : IsBlank before) (closes : IsBlank after) (valued : Denotes text item) :
      DenotesField ('"' :: (body ++ '"' :: (before ++ ':' :: (after ++ text)))) (name, item)

end

/-! ## Written scalars -/

theorem isNatural_ofNat (number : Nat) : IsNatural (Text.ofNat number) number := by
  refine ⟨ofNat_ne_nil number, fun _ => isDigit_of_mem_ofNat, fun zero => ?_,
    Nat.ofDigitChars_toDigits (by decide) (by decide)⟩
  rcases Nat.eq_zero_or_pos number with rfl | positive
  · rfl
  · obtain ⟨first, rest, spelled, nonzero⟩ := exists_ofNat_eq_cons positive
    rw [spelled] at zero
    exact absurd (Option.some.inj zero) nonzero

theorem denotes_ofInt (number : Int) : Denotes (Text.ofInt number) (.int number) := by
  cases number with
  | ofNat number => exact .natural (isNatural_ofNat number)
  | negSucc number => exact .negative (isNatural_ofNat (number + 1))

theorem denotesString_flatMap_escapeChar (text : Text) :
    DenotesString (text.flatMap (escapeChar false)) text := by
  induction text with
  | nil => exact .empty
  | cons letter text ih =>
      rw [List.flatMap_cons]
      obtain ⟨mark, known, _, _, _, spelled⟩ | ⟨control, spelled⟩ |
        ⟨visible, noQuote, noMark, spelled⟩ := escapeChar_cases letter
      · rw [spelled]
        exact .escaped known ih
      · rw [spelled]
        have digits := hexQuad?_hex (Nat.lt_trans control (by decide)) []
        rw [List.append_nil] at digits
        exact .numbered digits ih
      · rw [spelled]
        exact .plain visible noQuote noMark ih

theorem denotes_quote (text : Text) : Denotes (quote false text) (.str text) :=
  .string (denotesString_flatMap_escapeChar text)

/-! ## Written collections -/

theorem IsBlankRun.isBlank {blanks : Text} (blank : IsBlankRun blanks) : IsBlank blanks :=
  blank.isSpace

theorem isBlank_nil : IsBlank [] :=
  fun _ none => nomatch none

/-- Joined texts of parts are separated parts. -/
theorem separated_join {α : Type} {denotes : Text → α → Prop} {gap tail : Text}
    (gapBlank : IsBlank gap) (tailBlank : IsBlank tail) {texts : List Text} {parts : List α}
    (pairs : List.Forall₂ denotes texts parts) (filled : texts ≠ []) {lead : Text}
    (leadBlank : IsBlank lead) :
    Separated denotes (lead ++ (Text.join (',' :: gap) texts ++ tail)) parts := by
  induction pairs generalizing lead with
  | nil => exact absurd rfl filled
  | @cons text part texts parts here others ih =>
      cases others with
      | nil => exact .last leadBlank here tailBlank
      | @cons second _ rest _ there others =>
          have step := Separated.next leadBlank here isBlank_nil (ih (List.cons_ne_nil _ _) gapBlank)
          simpa [Text.join] using step

/-- Parts in brackets are nothing or separated parts. -/
theorem exists_of_brackets {α : Type} {denotes : Text → α → Prop} (layout : Layout) (depth : Nat)
    (opening closing : Char) {texts : List Text} {parts : List α}
    (pairs : List.Forall₂ denotes texts parts) :
    ∃ inside, layout.brackets depth opening closing texts = opening :: (inside ++ [closing]) ∧
      ((parts = [] ∧ IsBlank inside) ∨ Separated denotes inside parts) := by
  cases pairs with
  | nil => exact ⟨[], brackets_nil layout depth opening closing, .inl ⟨rfl, isBlank_nil⟩⟩
  | @cons text _ texts _ here others =>
      obtain ⟨lead, gap, tail, leadBlank, gapBlank, tailBlank, spelled⟩ :=
        exists_brackets layout depth opening closing text texts
      refine ⟨lead ++ (Text.join (',' :: gap) (text :: texts) ++ tail), ?_, .inr ?_⟩
      · rw [spelled, List.append_assoc, List.append_assoc]
      · exact separated_join gapBlank.isBlank tailBlank.isBlank (.cons here others)
          (List.cons_ne_nil _ _) leadBlank.isBlank

theorem denotes_list (layout : Layout) (depth : Nat) {texts : List Text} {items : List Value}
    (pairs : List.Forall₂ Denotes texts items) :
    Denotes (layout.brackets depth '[' ']' texts) (.list items) := by
  obtain ⟨inside, spelled, ⟨rfl, blank⟩ | parts⟩ := exists_of_brackets layout depth '[' ']' pairs
  · exact spelled ▸ .emptyList blank
  · exact spelled ▸ .list parts

theorem denotes_record (layout : Layout) (depth : Nat) {texts : List Text}
    {fields : List (Text × Value)} (distinct : (fields.map (·.1)).Nodup)
    (pairs : List.Forall₂ DenotesField texts fields) :
    Denotes (layout.brackets depth '\x7b' '\x7d' texts) (.map (keyed fields)) := by
  obtain ⟨inside, spelled, ⟨rfl, blank⟩ | parts⟩ :=
    exists_of_brackets layout depth '\x7b' '\x7d' pairs
  · exact spelled ▸ .emptyRecord blank
  · exact spelled ▸ .record distinct parts

theorem denotesField_of_denotes {text : Text} {field : Text × Value}
    (denotes : Denotes text field.2) :
    DenotesField (quote false field.1 ++ ": " ++ text) field := by
  have space : IsBlank [' '] := by simp [IsBlank, isSpace]
  have made := DenotesField.field (denotesString_flatMap_escapeChar field.1) isBlank_nil space denotes
  simpa [quote] using made

/-! ## Written documents -/

variable {allowed : Char → Prop}

/-- The form of a plain value denotes it. -/
theorem IsPlain.exists_denotes {item : Value} (plain : IsPlain allowed item) (layout : Layout)
    (depth : Nat) : ∃ text, form? layout false depth item = some text ∧ Denotes text item := by
  induction plain generalizing depth with
  | null => exact ⟨_, rfl, .null⟩
  | bool value =>
      cases value with
      | true => exact ⟨_, rfl, .true⟩
      | false => exact ⟨_, rfl, .false⟩
  | int value => exact ⟨_, rfl, denotes_ofInt value⟩
  | @str text _ => exact ⟨_, rfl, denotes_quote text⟩
  | @list items _ ih =>
      obtain ⟨texts, forms, pairs⟩ := exists_formItems? fun item member => ih item member (depth + 1)
      exact ⟨_, by rw [form?, forms]; rfl, denotes_list layout depth pairs⟩
  | @record fields distinct _ _ ih =>
      have formed : ∀ field ∈ fields, ∃ text, form? layout false (depth + 1) field.2 = some text ∧
          DenotesField (quote false field.1 ++ ": " ++ text) field := by
        intro field member
        obtain ⟨text, form, denotes⟩ := ih field member (depth + 1)
        exact ⟨text, form, denotesField_of_denotes denotes⟩
      obtain ⟨parts, forms, pairs⟩ := exists_formEntries? formed
      exact ⟨_, by rw [form?, forms]; rfl, denotes_record layout depth distinct pairs⟩

/-- The text is one document, which denotes the value, and is read as the value if that is legible;
blanks may follow it. -/
structure IsDocumentOf (text : Text) (item : Value) : Prop where
  denotes : Denotes text item
  read : ∀ tail, IsBlankRun tail →
    (Json.read (text ++ tail)).toOption = if isLegible item then some item else none

/-- A plain value is written as a document of it. -/
theorem IsPlain.exists_document {item : Value} (plain : IsPlain allowed item) :
    ∃ text, indented? item = some text ∧ IsDocumentOf text item := by
  obtain ⟨text, form, denotes⟩ := plain.exists_denotes .indented 0
  obtain ⟨other, otherForm, spells⟩ := plain.exists_form? .indented 0
  cases form.symm.trans otherForm
  exact ⟨text, form, denotes, fun _ => spells.read_append⟩

end ApiForge.Json
