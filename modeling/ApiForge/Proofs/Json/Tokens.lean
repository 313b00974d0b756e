import ApiForge.Json.Reader
import ApiForge.Json.Writer
import ApiForge.Proofs.Text.Stretches
import Mathlib.Algebra.Group.Nat.Defs
import Mathlib.Algebra.Ring.Int.Defs

/-!
# Strings and integers, written and read

A string in quotes is read back, whatever follows it. The digits of an integer
are read back if nothing follows that would go on with the number and if they
are not more than a number may have.
-/

namespace ApiForge.Json

/-! ## Strings -/

theorem hex_succ {width : Nat} (positive : 0 < width) (number : Nat) :
    Text.hex (width + 1) number =
      Text.hex width (number / 16) ++ [Nat.digitChar (number % 16)] := by
  unfold Text.hex
  dsimp only
  rcases Nat.lt_or_ge number 16 with small | large
  · obtain ⟨width, rfl⟩ := Nat.exists_eq_add_of_lt positive
    have zero : Nat.toDigits 16 (number / 16) = ['0'] := by
      rw [Nat.div_eq_of_lt small]
      rfl
    rw [zero, Nat.toDigits_of_lt_base small, Nat.mod_eq_of_lt small]
    simp [← List.replicate_succ']
  · rw [Nat.toDigits_of_base_le (by decide) large, List.length_append, List.length_singleton,
      Nat.add_sub_add_right, List.append_assoc]

theorem hex_one {number : Nat} (small : number < 16) :
    Text.hex 1 number = [Nat.digitChar number] := by
  rw [Text.hex, Nat.toDigits_of_lt_base small]
  rfl

theorem hexValue?_digitChar : ∀ digit < 16, hexValue? (Nat.digitChar digit) = some digit := by
  decide

/-- A number of sixteen bits has four hexadecimal digits, which spell it. -/
theorem exists_hex_eq {number : Nat} (small : number < 0x10000) :
    ∃ first second third fourth, Text.hex 4 number = [first, second, third, fourth] ∧
      ∀ rest, hexQuad? (first :: second :: third :: fourth :: rest) = some (number, rest) := by
  have digits : Text.hex 4 number = [Nat.digitChar (number / 16 / 16 / 16),
      Nat.digitChar (number / 16 / 16 % 16), Nat.digitChar (number / 16 % 16),
      Nat.digitChar (number % 16)] := by
    rw [hex_succ (by decide), hex_succ (by decide), hex_succ (by decide), hex_one (by omega)]
    rfl
  refine ⟨_, _, _, _, digits, fun rest => ?_⟩
  have first := hexValue?_digitChar (number / 16 / 16 / 16) (by omega)
  have second := hexValue?_digitChar (number / 16 / 16 % 16) (by omega)
  have third := hexValue?_digitChar (number / 16 % 16) (by omega)
  have fourth := hexValue?_digitChar (number % 16) (by omega)
  have sum : ((number / 16 / 16 / 16 * 16 + number / 16 / 16 % 16) * 16 + number / 16 % 16) * 16 +
      number % 16 = number := by omega
  simp [hexQuad?, first, second, third, fourth, sum]

/-- The number of sixteen bits is read from its escape. -/
theorem hexQuad?_hex {number : Nat} (small : number < 0x10000) (rest : Text) :
    hexQuad? (Text.hex 4 number ++ rest) = some (number, rest) := by
  obtain ⟨first, second, third, fourth, digits, spelled⟩ := exists_hex_eq small
  rw [digits]
  exact spelled rest

theorem pairedEscape_of_control {number : Nat} (control : number < 0x20) (rest : Text) :
    pairedEscape number rest = .ok (Char.ofNat number, rest) := by
  have single : isHighSurrogate number = false := by
    simp only [isHighSurrogate, Bool.and_eq_false_iff, decide_eq_false_iff_not]
    omega
  have other : isLowSurrogate number = false := by
    simp only [isLowSurrogate, Bool.and_eq_false_iff, decide_eq_false_iff_not]
    omega
  have small : number < 0x110000 := by omega
  unfold pairedEscape
  split <;> simp [single, other, charOfCodePoint?, small]

/-- A character has an escape of one letter, or is a control that is numbered, or stands for
itself. -/
theorem escapeChar_cases (letter : Char) :
    (∃ mark, escaped? mark = some letter ∧ mark ≠ 'u' ∧ 0x20 ≤ mark.toNat ∧ mark.toNat < 0x80 ∧
      escapeChar false letter = ['\\', mark]) ∨
    (letter.toNat < 0x20 ∧ escapeChar false letter = numberedEscape letter.toNat) ∨
    (0x20 ≤ letter.toNat ∧ letter ≠ '"' ∧ letter ≠ '\\' ∧ escapeChar false letter = [letter]) := by
  unfold escapeChar
  by_cases quote : letter = '"'
  · exact .inl ⟨'"', by simp [quote, escaped?]⟩
  by_cases backslash : letter = '\\'
  · exact .inl ⟨'\\', by simp [backslash, escaped?]⟩
  by_cases feed : letter = '\n'
  · exact .inl ⟨'n', by simp [feed, escaped?]⟩
  by_cases carriage : letter = '\r'
  · exact .inl ⟨'r', by simp [carriage, escaped?]⟩
  by_cases tab : letter = '\t'
  · exact .inl ⟨'t', by simp [tab, escaped?]⟩
  by_cases back : letter = '\x08'
  · exact .inl ⟨'b', by simp [back, escaped?]⟩
  by_cases form : letter = '\x0c'
  · exact .inl ⟨'f', by simp [form, escaped?]⟩
  by_cases control : letter.toNat < 0x20
  · exact .inr (.inl ⟨control, by simp [*]⟩)
  · exact .inr (.inr ⟨by omega, quote, backslash, by simp [*]⟩)

/-- A character is read back from its spelling, if the string goes on. -/
theorem stringBody_escapeChar (letter : Char) {fuel : Nat} {rest text after : Text}
    (goesOn : rest ≠ []) (read : stringBody fuel rest = .ok (text, after)) :
    stringBody (fuel + 1) (escapeChar false letter ++ rest) = .ok (letter :: text, after) := by
  obtain ⟨mark, known, apart, _, _, spelled⟩ | ⟨control, spelled⟩ |
    ⟨visible, quote, backslash, spelled⟩ := escapeChar_cases letter
  · rw [spelled, List.cons_append, List.cons_append, List.nil_append, stringBody, known]
    · simp [read, Except.bind, bind, pure, Except.pure]
    · exact apart
  · have digits := hexQuad?_hex (Nat.lt_trans control (by decide)) rest
    have more : rest.isEmpty = false := by simpa using goesOn
    rw [spelled]
    change stringBody (fuel + 1) ('\\' :: 'u' :: (Text.hex 4 letter.toNat ++ rest)) = _
    simp only [stringBody, digits, more, Bool.false_eq_true, if_false,
      pairedEscape_of_control control, bind, Except.bind, read, Char.ofNat_toNat]
    rfl
  · rw [spelled, List.singleton_append, stringBody, if_neg (by omega), read]
    · rfl
    · exact quote
    · exact fun same => absurd same backslash
    · exact fun _ same => absurd same backslash
    · exact fun _ _ same => absurd same backslash

/-- A text is read back up to the quote that closes it. -/
theorem stringBody_flatMap_escapeChar (text rest : Text) {fuel : Nat} (enough : text.length < fuel) :
    stringBody fuel (text.flatMap (escapeChar false) ++ '"' :: rest) = .ok (text, rest) := by
  induction text generalizing fuel with
  | nil =>
      obtain ⟨fuel, rfl⟩ := Nat.exists_eq_add_of_lt enough
      simp [stringBody]
  | cons letter text ih =>
      obtain ⟨fuel, rfl⟩ : ∃ less, fuel = less + 1 := ⟨fuel - 1, by simp at enough; omega⟩
      rw [List.flatMap_cons, List.append_assoc]
      exact stringBody_escapeChar letter (by simp) (ih (by simpa using enough))

theorem length_le_flatMap_escapeChar (text : Text) :
    text.length ≤ (text.flatMap (escapeChar false)).length := by
  induction text with
  | nil => simp
  | cons letter text ih =>
      have spelled : 1 ≤ (escapeChar false letter).length := by
        obtain ⟨_, _, _, _, _, spelled⟩ | ⟨_, spelled⟩ | ⟨_, _, _, spelled⟩ := escapeChar_cases letter <;>
          simp [spelled, numberedEscape]
      simp only [List.flatMap_cons, List.length_append, List.length_cons]
      omega

theorem length_add_two_le_quote (text : Text) : text.length + 2 ≤ (quote false text).length := by
  have := length_le_flatMap_escapeChar text
  simp only [quote, List.length_append, List.length_cons, List.length_nil]
  omega

/-- A string is read back from its quoted form. -/
theorem string_of_quote (text rest : Text) (fuel : Nat) (enough : text.length < fuel) :
    ∃ after, quote false text ++ rest = '"' :: after ∧ string fuel after = .ok (text, rest) := by
  refine ⟨text.flatMap (escapeChar false) ++ '"' :: rest, by simp [quote], ?_⟩
  rw [string, stringBody_flatMap_escapeChar text rest enough]

/-! ## Integers -/

/-- A text that ends what stands in front of it: it is empty or starts with a blank, a comma or
a closing bracket. -/
def Ends (rest : Text) : Prop :=
  ∀ letter ∈ rest.head?, isSpace letter = true ∨ letter = ',' ∨ letter = ']' ∨ letter = '\x7d'

theorem ends_nil : Ends [] := by
  intro letter none
  cases none

theorem ends_cons {letter : Char} {rest : Text}
    (ends : isSpace letter = true ∨ letter = ',' ∨ letter = ']' ∨ letter = '\x7d') :
    Ends (letter :: rest) := by
  rintro _ ⟨⟩
  exact ends

/-- What ends a number is no part of one. -/
theorem Ends.apart {rest : Text} (ends : Ends rest) (letter : Char) (first : letter ∈ rest.head?) :
    letter.isDigit = false ∧ letter ≠ '.' ∧ letter ≠ 'e' ∧ letter ≠ 'E' := by
  rcases ends letter first with blank | rfl | rfl | rfl
  · simp only [isSpace, Bool.or_eq_true, beq_iff_eq] at blank
    rcases blank with ((rfl | rfl) | rfl) | rfl <;> decide
  all_goals decide

theorem isDigit_of_mem_ofNat {number : Nat} {letter : Char} (member : letter ∈ Text.ofNat number) :
    letter.isDigit = true :=
  Nat.isDigit_of_mem_toDigits (by decide) (by decide) member

theorem ofNat_ne_nil (number : Nat) : Text.ofNat number ≠ [] :=
  Nat.toDigits_ne_nil

/-- The digits of a positive number do not start with zero. -/
theorem exists_ofNat_eq_cons {number : Nat} (positive : 0 < number) :
    ∃ first rest, Text.ofNat number = first :: rest ∧ first ≠ '0' := by
  induction number using Nat.strongRecOn with
  | ind number ih =>
      by_cases small : number < 10
      · refine ⟨Nat.digitChar number, [], Nat.toDigits_of_lt_base small, ?_⟩
        revert positive
        exact (by decide : ∀ number < 10, 0 < number → Nat.digitChar number ≠ '0') number small
      · obtain ⟨first, rest, spelled, nonzero⟩ := ih (number / 10) (by omega) (by omega)
        refine ⟨first, rest ++ [Nat.digitChar (number % 10)], ?_, nonzero⟩
        rw [Text.ofNat, Nat.toDigits_of_base_le (by decide) (by omega)]
        exact congrArg (· ++ _) spelled

theorem wholeDigits_ofNat (number : Nat) {rest : Text} (ends : Ends rest) :
    wholeDigits (Text.ofNat number ++ rest) = (Text.ofNat number, rest) := by
  have digits : ∀ letter ∈ Text.ofNat number, letter.isDigit = true :=
    fun _ => isDigit_of_mem_ofNat
  obtain ⟨taken, dropped⟩ :=
    Text.takeWhile_append_of_stops digits fun letter first => (ends.apart letter first).1
  rcases Nat.eq_zero_or_pos number with rfl | positive
  · rfl
  · obtain ⟨first, others, spelled, nonzero⟩ := exists_ofNat_eq_cons positive
    rw [wholeDigits.eq_def]
    split
    · next starts =>
        rw [spelled, List.cons_append, List.cons.injEq] at starts
        exact absurd starts.1 nonzero
    · rw [taken, dropped]

theorem fractionDigits_of_ends {rest : Text} (ends : Ends rest) : fractionDigits rest = ([], rest) := by
  rw [fractionDigits.eq_def]
  split
  · exact absurd rfl (ends.apart '.' rfl).2.1
  · rfl

theorem powerDigits_of_ends {rest : Text} (ends : Ends rest) : powerDigits rest = none := by
  cases rest with
  | nil => rfl
  | cons letter rest =>
      obtain ⟨_, _, small, large⟩ := ends.apart letter rfl
      simp [powerDigits, small, large]

theorem digitIn?_of_isDigit {letter : Char} (digit : letter.isDigit = true) :
    Numeral.digitIn? 10 letter = some (letter.toNat - '0'.toNat) := by
  have bounds : 48 ≤ letter.toNat ∧ letter.toNat ≤ 57 := by
    simpa [Char.isDigit, UInt32.le_iff_toNat_le] using digit
  have small : letter.toNat - 48 < 10 := by omega
  simp [Numeral.digitIn?, digit, small]

theorem foldlM_digitIn? {digits : Text} (all : ∀ letter ∈ digits, letter.isDigit = true)
    (start : Nat) :
    digits.foldlM (fun number letter => (Numeral.digitIn? 10 letter).map (number * 10 + ·)) start =
      some (Nat.ofDigitChars 10 digits start) := by
  induction digits generalizing start with
  | nil => rfl
  | cons letter digits ih =>
      rw [List.foldlM_cons, digitIn?_of_isDigit (all letter List.mem_cons_self),
        Nat.ofDigitChars_cons, Nat.mul_comm 10]
      exact ih (fun other member => all other (List.mem_cons_of_mem _ member)) _

/-- The digits of a number spell it. -/
theorem natural?_ofNat (number : Nat) : Numeral.natural? 10 (Text.ofNat number) = some number := by
  have some' : (Text.ofNat number).isEmpty = false := by simpa using ofNat_ne_nil number
  rw [Numeral.natural?, some', if_neg (by decide), foldlM_digitIn? fun _ => isDigit_of_mem_ofNat,
    Text.ofNat, Nat.ofDigitChars_toDigits (by decide) (by decide)]

/-- An integer with at most as many digits as a number may have. -/
def isShort (value : Int) : Bool :=
  (Text.ofNat value.natAbs).length ≤ Numeral.greatestLength

theorem isShort_iff {value : Int} :
    isShort value = true ↔ value.natAbs < 10 ^ Numeral.greatestLength := by
  rw [isShort, decide_eq_true_iff, Text.ofNat,
    Nat.length_toDigits_le_iff (by decide) (by decide)]

/-- The digits of a number are read as one if they are not too many. -/
theorem magnitude_ofNat (negative : Bool) (number : Nat) {rest : Text} (ends : Ends rest) :
    (magnitude negative (Text.ofNat number ++ rest)).bind Except.toOption =
      if (Text.ofNat number).length ≤ Numeral.greatestLength then
        some (.int (if negative then -(number : Int) else number), rest)
      else none := by
  have some' : (Text.ofNat number).isEmpty = false := by simpa using ofNat_ne_nil number
  simp only [magnitude, wholeDigits_ofNat number ends, fractionDigits_of_ends ends,
    powerDigits_of_ends ends, some', Bool.false_eq_true, if_false, List.append_nil,
    natural?_ofNat, Option.getD_some, List.isEmpty_nil, if_true]
  by_cases long : Numeral.greatestLength < (Text.ofNat number).length
  · rw [if_pos long, if_neg (Nat.not_le.mpr long)]
    rfl
  · rw [if_neg long, if_pos (Nat.not_lt.mp long)]
    rfl

theorem number_signed (text : Text) :
    (number ('-' :: text)).toOption =
      ((magnitude true text).bind Except.toOption).map (Prod.map .scalar id) := by
  rw [number]
  split <;> simp_all [Except.toOption, stop]

theorem number_unsigned {first : Char} (unsigned : first ≠ '-') (text : Text) :
    (number (first :: text)).toOption =
      ((magnitude false (first :: text)).bind Except.toOption).map (Prod.map .scalar id) := by
  rw [number]
  · split <;> simp_all [Except.toOption, stop]
  · exact fun rest same => unsigned (List.cons.inj same).1

/-- The first letter of an integer is a digit or a sign with a digit after it. -/
theorem ofInt_cases (value : Int) :
    (∃ digit rest, Text.ofInt value = digit :: rest ∧ digit.isDigit = true ∧
      Text.ofInt value = Text.ofNat value.natAbs ∧ 0 ≤ value) ∨
    (∃ digit rest, Text.ofInt value = '-' :: digit :: rest ∧ digit.isDigit = true ∧
      Text.ofInt value = '-' :: Text.ofNat value.natAbs ∧ value < 0) := by
  have starts (number : Nat) :
      ∃ digit rest, Text.ofNat number = digit :: rest ∧ digit.isDigit = true := by
    obtain ⟨digit, rest, spelled⟩ := List.exists_cons_of_ne_nil (ofNat_ne_nil number)
    exact ⟨digit, rest, spelled, isDigit_of_mem_ofNat (spelled ▸ List.mem_cons_self)⟩
  cases value with
  | ofNat number =>
      obtain ⟨digit, rest, spelled, isDigit⟩ := starts number
      exact .inl ⟨digit, rest, spelled, isDigit, rfl, Int.natCast_nonneg number⟩
  | negSucc number =>
      obtain ⟨digit, rest, spelled, isDigit⟩ := starts (number + 1)
      exact .inr ⟨digit, rest, congrArg _ spelled, isDigit, rfl, Int.negSucc_lt_zero number⟩

/-- No word starts with a digit, nor with a sign before a digit. -/
theorem find?_words {digit : Char} (isDigit : digit.isDigit = true) (rest : Text) :
    (words.find? fun word => Text.startsWith (digit :: rest) word.1) = none ∧
      (words.find? fun word => Text.startsWith ('-' :: digit :: rest) word.1) = none := by
  have apart (letter : Char) (no : letter.isDigit = false) : (letter == digit) = false := by
    rw [beq_eq_false_iff_ne]
    rintro rfl
    exact Bool.noConfusion (no.symm.trans isDigit)
  constructor <;>
    simp [words, Text.startsWith, List.isPrefixOf, apart 'n' rfl, apart 't' rfl, apart 'f' rfl,
      apart 'N' rfl, apart 'I' rfl, apart '-' rfl]

/-- An integer is read if it is short. -/
theorem simple_ofInt (value : Int) {rest : Text} (ends : Ends rest) :
    (simple (Text.ofInt value ++ rest)).toOption =
      if isShort value then some (.int value, rest) else none := by
  rcases ofInt_cases value with ⟨digit, others, spelled, isDigit, form, sign⟩ |
    ⟨digit, others, spelled, isDigit, form, sign⟩
  · have unsigned : digit ≠ '-' := by
      rintro rfl
      cases isDigit
    have magnitude : (value.natAbs : Int) = value := by omega
    have read := number_unsigned unsigned (others ++ rest)
    rw [← List.cons_append, ← spelled, form, magnitude_ofNat false value.natAbs ends] at read
    rw [spelled, List.cons_append, simple, (find?_words isDigit _).1]
    rw [← List.cons_append, ← spelled, form]
    refine read.trans ?_
    by_cases short : isShort value = true
    · rw [if_pos short, if_pos (of_decide_eq_true short), if_neg Bool.false_ne_true, magnitude]
      rfl
    · rw [if_neg short, if_neg fun fits => short (decide_eq_true fits)]
      rfl
  · have digits : Text.ofNat value.natAbs = digit :: others :=
      (List.cons.inj (form.symm.trans spelled)).2
    have magnitude : -(value.natAbs : Int) = value := by omega
    have read := number_signed (Text.ofNat value.natAbs ++ rest)
    rw [magnitude_ofNat true value.natAbs ends] at read
    rw [spelled, List.cons_append, List.cons_append, simple, (find?_words isDigit _).2]
    rw [← List.cons_append, ← digits]
    refine read.trans ?_
    by_cases short : isShort value = true
    · rw [if_pos short, if_pos (of_decide_eq_true short), if_pos rfl, magnitude]
      rfl
    · rw [if_neg short, if_neg fun fits => short (decide_eq_true fits)]
      rfl

end ApiForge.Json
