import ApiForge.Naming.Identifier
import Mathlib

/-!
# Forms of names

The Pascal and the camel form of every text are identifiers, so generated code
can use them as they are. A Pascal form is its own Pascal form and that of the
camel form, so the two forms keep the same texts apart. A name that is used as
it is may have one line feed after its identifier. Then the names made from it
do not stay on one line. Other names are keys in quotes.
-/

namespace ApiForge.Naming

theorem toUpper_of_isDigit {letter : Char} (digit : letter.isDigit = true) :
    letter.toUpper = letter := by
  refine Char.toUpper_eq_of_not_isLower ?_
  simp only [Char.isDigit, Char.isLower, Bool.and_eq_true, decide_eq_true_eq] at digit ⊢
  grind

theorem isAlphanum_toUpper {letter : Char} (given : letter.isAlphanum = true) :
    letter.toUpper.isAlphanum = true := by
  rcases Bool.or_eq_true_iff.mp given with alpha | digit
  · exact Bool.or_eq_true_iff.mpr (.inl (by rwa [Char.isAlpha_toUpper_eq_isAlpha]))
  · rwa [toUpper_of_isDigit digit]

/-- Only letters and digits are kept of a text. -/
theorem isAlphanum_of_mem_capitalized {fresh : Bool} {text : Text} :
    ∀ letter ∈ capitalized fresh text, letter.isAlphanum = true := by
  induction text generalizing fresh with
  | nil => exact fun _ none => nomatch none
  | cons first rest ih =>
      intro letter member
      rw [capitalized] at member
      split at member
      · next given =>
          rcases List.mem_cons.mp member with rfl | inRest
          · split
            · exact isAlphanum_toUpper given
            · exact given
          · exact ih letter inRest
      · exact ih letter member

theorem isIdentifierPart_of_isAlphanum {letter : Char} (given : letter.isAlphanum = true) :
    isIdentifierPart letter = true := by
  simp [isIdentifierPart, given]

/-! ## Pascal forms -/

/-- A word begins with a capital or a digit. -/
theorem head_capitalized {text rest : Text} {first : Char}
    (letters : capitalized true text = first :: rest) :
    first.isUpper = true ∨ first.isDigit = true := by
  induction text with
  | nil => cases letters
  | cons letter tail ih =>
      rw [capitalized] at letters
      split at letters
      · next given =>
          rw [if_pos rfl] at letters
          rw [← (List.cons.inj letters).1]
          rcases Bool.or_eq_true_iff.mp given with alpha | digit
          · exact .inl (by rwa [Char.isUpper_toUpper_eq_isAlpha])
          · exact .inr (by rwa [toUpper_of_isDigit digit])
      · exact ih letters

/-- A capital, or an underscore before a digit, and then letters and digits. -/
inductive IsPascal : Text → Prop where
  | capital {first : Char} {rest : Text} (upper : first.isUpper = true)
      (others : ∀ letter ∈ rest, letter.isAlphanum = true) : IsPascal (first :: rest)
  | guarded {digit : Char} {rest : Text} (isDigit : digit.isDigit = true)
      (others : ∀ letter ∈ rest, letter.isAlphanum = true) : IsPascal ('_' :: digit :: rest)

theorem isPascal_pascal (text : Text) : IsPascal (pascal text) := by
  have given : ∀ letter ∈ capitalized true text, letter.isAlphanum = true :=
    isAlphanum_of_mem_capitalized
  unfold pascal
  cases letters : capitalized true text with
  | nil =>
      have fallback : IsPascal ['D', 'e', 'f', 'a', 'u', 'l', 't'] :=
        .capital (by decide) (List.all_eq_true.mp (by decide))
      exact fallback
  | cons first rest =>
      rw [letters] at given
      have others : ∀ letter ∈ rest, letter.isAlphanum = true :=
        fun letter member => given letter (List.mem_cons_of_mem _ member)
      dsimp only [guardDigit]
      split
      · next digit => exact .guarded digit others
      · next letter => exact .capital ((head_capitalized letters).resolve_right letter) others

theorem IsPascal.isIdentifier {text : Text} (form : IsPascal text) :
    Naming.isIdentifier text = true := by
  have parts {rest : Text} (others : ∀ letter ∈ rest, letter.isAlphanum = true) :
      rest.all isIdentifierPart = true :=
    List.all_eq_true.mpr fun letter member => isIdentifierPart_of_isAlphanum (others letter member)
  cases form with
  | capital upper others =>
      rw [Naming.isIdentifier, parts others]
      simp [isIdentifierStart, Char.isAlpha, upper]
  | guarded digit others =>
      rw [Naming.isIdentifier, List.all_cons, parts others]
      simp [isIdentifierStart, isIdentifierPart, Char.isAlphanum, digit]

theorem isIdentifier_pascal (text : Text) : isIdentifier (pascal text) = true :=
  (isPascal_pascal text).isIdentifier

theorem capitalized_of_isAlphanum {text : Text}
    (given : ∀ letter ∈ text, letter.isAlphanum = true) : capitalized false text = text := by
  induction text with
  | nil => rfl
  | cons first rest ih =>
      rw [capitalized, if_pos (given first List.mem_cons_self), if_neg Bool.false_ne_true,
        ih fun letter member => given letter (List.mem_cons_of_mem _ member)]

/-- One word gets a capital. -/
theorem pascal_of_isAlphanum {first : Char} {rest : Text} (given : first.isAlphanum = true)
    (others : ∀ letter ∈ rest, letter.isAlphanum = true) :
    pascal (first :: rest) = guardDigit (first.toUpper :: rest) := by
  rw [pascal, capitalized, if_pos given, if_pos rfl, capitalized_of_isAlphanum others]

theorem isDigit_eq_false_of_isUpper {letter : Char} (upper : letter.isUpper = true) :
    letter.isDigit = false := by
  simp only [Char.isDigit, Char.isUpper, Bool.and_eq_false_iff, decide_eq_true_eq,
    decide_eq_false_iff_not] at upper ⊢
  grind

/-- A word whose first letter becomes a capital. -/
theorem pascal_of_isUpper {first : Char} {rest : Text} (upper : first.toUpper.isUpper = true)
    (others : ∀ letter ∈ rest, letter.isAlphanum = true) :
    pascal (first :: rest) = first.toUpper :: rest := by
  have given : first.isAlphanum = true := by
    rw [Char.isUpper_toUpper_eq_isAlpha] at upper
    simp [Char.isAlphanum, upper]
  rw [pascal_of_isAlphanum given others, guardDigit, if_neg]
  rw [isDigit_eq_false_of_isUpper upper]
  exact Bool.false_ne_true

theorem toUpper_of_isUpper {letter : Char} (upper : letter.isUpper = true) :
    letter.toUpper = letter :=
  Char.toUpper_eq_of_not_isLower (Char.not_isLower_of_isUpper upper)

/-- A Pascal form is its own. -/
theorem IsPascal.pascal_eq {text : Text} (form : IsPascal text) : pascal text = text := by
  cases form with
  | @capital first rest upper others =>
      have same := toUpper_of_isUpper upper
      rw [pascal_of_isUpper (by rwa [same]) others, same]
  | @guarded digit rest isDigit others =>
      have given : digit.isAlphanum = true := by simp [Char.isAlphanum, isDigit]
      -- The underscore ends a word, and the digit gets it back.
      change pascal (digit :: rest) = _
      rw [pascal_of_isAlphanum given others, toUpper_of_isDigit isDigit, guardDigit, if_pos isDigit]

theorem pascal_pascal (text : Text) : pascal (pascal text) = pascal text :=
  (isPascal_pascal text).pascal_eq

/-! ## Camel forms -/

/-- A small first letter leaves an identifier an identifier. -/
theorem isIdentifier_camel (text : Text) : isIdentifier (camel text) = true := by
  have identified := isIdentifier_pascal text
  unfold camel
  cases letters : pascal text with
  | nil =>
      rw [letters] at identified
      exact identified
  | cons first rest =>
      rw [letters, isIdentifier, Bool.and_eq_true] at identified
      dsimp only
      rw [isIdentifier, Bool.and_eq_true]
      refine ⟨?_, identified.2⟩
      have start := identified.1
      simp only [isIdentifierStart, Bool.or_eq_true, beq_iff_eq] at start ⊢
      rw [Char.isAlpha_toLower_eq_isAlpha]
      rcases start with (alpha | rfl) | rfl
      · exact .inl (.inl alpha)
      · exact .inl (.inr rfl)
      · exact .inr rfl

/-- The Pascal form puts the capital of a camel form back. -/
theorem pascal_camel (text : Text) : pascal (camel text) = pascal text := by
  have form := isPascal_pascal text
  unfold camel
  generalize pascal text = name at form
  cases form with
  | @capital first rest upper others =>
      have same : first.toLower.toUpper = first := by
        rw [Char.toUpper_toLower_eq_toUpper, toUpper_of_isUpper upper]
      dsimp only
      rw [pascal_of_isUpper (by rwa [same]) others, same]
  | guarded isDigit others => exact (IsPascal.guarded isDigit others).pascal_eq

theorem camel_pascal (text : Text) : camel (pascal text) = camel text := by
  rw [camel, pascal_pascal, ← camel.eq_1]

/-- Texts with one camel form have one Pascal form. -/
theorem pascal_eq_of_camel_eq {first second : Text} (same : camel first = camel second) :
    pascal first = pascal second := by
  rw [← pascal_camel first, same, pascal_camel]

theorem camel_eq_iff {first second : Text} :
    camel first = camel second ↔ pascal first = pascal second :=
  ⟨pascal_eq_of_camel_eq, fun same => by rw [camel, camel, same]⟩

/-! ## Identifiers as keys -/

theorem propertyKey_of_isIdentifier {name : Text} (identified : isIdentifier name = true) :
    propertyKey name = name := by
  unfold propertyKey isPlain
  rw [identified, Bool.true_or, if_pos rfl]

/-- The laws of the two forms of a text. -/
structure HasForms (text : Text) : Prop where
  shape : IsPascal (pascal text)
  pascal_pascal : pascal (pascal text) = pascal text
  pascal_camel : pascal (camel text) = pascal text
  camel_pascal : camel (pascal text) = camel text
  pascal_key : propertyKey (pascal text) = pascal text
  camel_key : propertyKey (camel text) = camel text

theorem hasForms (text : Text) : HasForms text where
  shape := isPascal_pascal text
  pascal_pascal := pascal_pascal text
  pascal_camel := pascal_camel text
  camel_pascal := camel_pascal text
  pascal_key := propertyKey_of_isIdentifier (isIdentifier_pascal text)
  camel_key := propertyKey_of_isIdentifier (isIdentifier_camel text)

theorem isIdentifierPart_of_mem {name : Text} (identified : isIdentifier name = true) :
    ∀ letter ∈ name, isIdentifierPart letter = true := by
  cases name with
  | nil => exact fun _ none => nomatch none
  | cons first rest =>
      rw [isIdentifier, Bool.and_eq_true] at identified
      intro letter member
      rcases List.mem_cons.mp member with rfl | inRest
      · have start := identified.1
        simp only [isIdentifierStart, isIdentifierPart, Char.isAlphanum, Bool.or_eq_true] at start ⊢
        rcases start with (alpha | line) | dollar
        · exact .inl (.inl (.inl alpha))
        · exact .inl (.inr line)
        · exact .inr dollar
      · exact List.all_eq_true.mp identified.2 letter inRest

theorem not_mem_of_isIdentifier {name : Text} {letter : Char} (identified : isIdentifier name = true)
    (other : isIdentifierPart letter = false) : letter ∉ name := by
  intro member
  rw [isIdentifierPart_of_mem identified letter member] at other
  cases other

/-! ## Plain names -/

theorem feed_not_mem_of_isIdentifier {name : Text} (identified : isIdentifier name = true) :
    '\n' ∉ name :=
  not_mem_of_isIdentifier identified (by decide)

theorem not_isIdentifier_feed (name : Text) : isIdentifier (name ++ ['\n']) = false := by
  by_contra identified
  rw [Bool.not_eq_false] at identified
  exact feed_not_mem_of_isIdentifier identified (List.mem_append_right _ List.mem_cons_self)

/-- A name that is used as it is: an identifier, perhaps with a line feed after it. -/
theorem isPlain_iff {name : Text} :
    isPlain name = true ↔
      ∃ word, isIdentifier word = true ∧ (name = word ∨ name = word ++ ['\n']) := by
  unfold isPlain
  rw [Bool.or_eq_true, Bool.and_eq_true, beq_iff_eq]
  constructor
  · rintro (identified | ⟨ended, identified⟩)
    · exact ⟨name, identified, .inl rfl⟩
    · exact ⟨name.dropLast, identified, .inr (List.dropLast_append_getLast? _ ended).symm⟩
  · rintro ⟨word, identified, rfl | rfl⟩
    · exact .inl identified
    · exact .inr ⟨List.getLast?_concat, by rwa [List.dropLast_concat]⟩

/-- The name is an identifier and a line feed. -/
def EndsInFeed (name : Text) : Prop :=
  ∃ word, isIdentifier word = true ∧ name = word ++ ['\n']

theorem isIdentifierPart_of_mem_schemaType {name : Text} :
    ∀ letter ∈ schemaType name, isIdentifierPart letter = true ∨ letter = '\n' := by
  intro letter member
  unfold schemaType at member
  split at member
  · next plain =>
      obtain ⟨word, identified, rfl | rfl⟩ := isPlain_iff.mp plain
      · exact .inl (isIdentifierPart_of_mem identified _ member)
      · rcases List.mem_append.mp member with inWord | last
        · exact .inl (isIdentifierPart_of_mem identified _ inWord)
        · exact .inr (List.mem_singleton.mp last)
  · exact .inl (isIdentifierPart_of_mem (isIdentifier_pascal name) _ member)

/-- The type of a named schema is one line, unless the name itself ends a line. -/
theorem feed_mem_schemaType_iff {name : Text} : '\n' ∈ schemaType name ↔ EndsInFeed name := by
  constructor
  · intro member
    unfold schemaType at member
    split at member
    · next plain =>
        obtain ⟨word, identified, rfl | rfl⟩ := isPlain_iff.mp plain
        · exact absurd member (feed_not_mem_of_isIdentifier identified)
        · exact ⟨word, identified, rfl⟩
    · exact absurd member (feed_not_mem_of_isIdentifier (isIdentifier_pascal name))
  · rintro ⟨word, identified, rfl⟩
    rw [schemaType, if_pos (isPlain_iff.mpr ⟨word, identified, .inr rfl⟩)]
    exact List.mem_append_right _ List.mem_cons_self

/-! ## Quoted names -/

/-- A name between the quotes of a key. -/
def keyBody (name : Text) : Text :=
  name.flatMap fun letter => if letter = '\\' ∨ letter = '"' then ['\\', letter] else [letter]

theorem quotedKey_eq (name : Text) : quotedKey name = '"' :: (keyBody name ++ ['"']) :=
  rfl

theorem keyBody_cons (letter : Char) (rest : Text) :
    keyBody (letter :: rest) =
      if letter = '\\' ∨ letter = '"' then '\\' :: letter :: keyBody rest
      else letter :: keyBody rest := by
  rw [keyBody, List.flatMap_cons]
  split <;> rfl

end ApiForge.Naming
