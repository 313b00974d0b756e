import ApiForge.Decimal.Numeral
import ApiForge.Proofs.Json.Tokens
import Mathlib.Data.List.TakeWhile

/-!
# Whole numerals

What is read as an integer: margins, then at most one sign, then digits of any
script, two of which may have an underscore between them, then margins again. The
reader first puts plain letters in the place of margins and digits, which keeps
apart what the parts of a numeral are told by.
-/

namespace ApiForge

/-! ## Letters -/

/-- A digit follows the digit zero of its script. -/
theorem exists_start_of_digitValue? {letter : Char} {value : Nat}
    (digit : digitValue? letter = some value) :
    ∃ start ∈ digitZeros, letter.toNat = start + value ∧ value < 10 := by
  unfold digitValue? at digit
  split at digit
  · next isDigit =>
      have bounds : 48 ≤ letter.toNat ∧ letter.toNat ≤ 57 := by
        simpa [Char.isDigit, UInt32.le_iff_toNat_le] using isDigit
      have same : letter.toNat - 48 = value := Option.some.inj digit
      exact ⟨48, by decide, by omega, by omega⟩
  · obtain ⟨start, found, same⟩ := Option.map_eq_some_iff.mp digit
    have within := List.find?_some found
    simp only [Bool.and_eq_true, decide_eq_true_eq] at within
    exact ⟨start, List.mem_of_find?_eq_some found, by omega, by omega⟩

theorem digitValue?_of_isDigit {letter : Char} (digit : letter.isDigit = true) :
    digitValue? letter = some (letter.toNat - '0'.toNat) :=
  if_pos digit

/-- The numbers of the blanks. -/
def blankNumbers : List Nat :=
  [0x09, 0x0a, 0x0b, 0x0c, 0x0d, 0x1c, 0x1d, 0x1e, 0x1f, 0x20, 0x85, 0xa0, 0x1680] ++
    (List.range 11).map (0x2000 + ·) ++ [0x2028, 0x2029, 0x202f, 0x205f, 0x3000]

theorem mem_blankNumbers {letter : Char} (blank : isBlank letter = true) :
    letter.toNat ∈ blankNumbers := by
  unfold isBlank at blank
  rw [Bool.or_eq_true, Bool.or_eq_true] at blank
  rcases blank with (ascii | listed) | space
  · simp only [Char.isWhitespace, Bool.or_eq_true, decide_eq_true_eq] at ascii
    rcases ascii with ((rfl | rfl) | rfl) | rfl <;> decide
  · have others : ∀ number ∈ [0x0b, 0x0c, 0x1c, 0x1d, 0x1e, 0x1f, 0x85, 0xa0, 0x1680, 0x2028,
        0x2029, 0x202f, 0x205f, 0x3000], number ∈ blankNumbers := by decide
    exact others _ (List.contains_iff_mem.mp listed)
  · simp only [Bool.and_eq_true, decide_eq_true_eq] at space
    refine List.mem_append_left _ (List.mem_append_right _ (List.mem_map.mpr ?_))
    exact ⟨letter.toNat - 0x2000, List.mem_range.mpr (by omega), by omega⟩

/-- No digit of any script is a blank. -/
theorem isBlank_of_digitValue? {letter : Char} {value : Nat}
    (digit : digitValue? letter = some value) : isBlank letter = false := by
  by_contra blank
  obtain ⟨start, inZeros, number, small⟩ := exists_start_of_digitValue? digit
  have apart : ∀ start ∈ digitZeros, ∀ number ∈ blankNumbers,
      number < start ∨ start + 10 ≤ number := by
    decide +kernel
  have := apart start inZeros _ (mem_blankNumbers (eq_true_of_ne_false blank))
  omega

namespace Numeral

/-- The ASCII digit with this value. -/
def digitLetter (value : Nat) : Char :=
  Char.ofNat (value + 48)

theorem isDigit_digitLetter {value : Nat} (small : value < 10) :
    (digitLetter value).isDigit = true := by
  have all : ∀ value < 10, (digitLetter value).isDigit = true := by decide
  exact all value small

theorem toNat_digitLetter {value : Nat} (small : value < 10) :
    (digitLetter value).toNat - '0'.toNat = value := by
  have all : ∀ value < 10, (digitLetter value).toNat - '0'.toNat = value := by decide
  exact all value small

theorem plainLetter_of_digit {letter : Char} {value : Nat}
    (digit : digitValue? letter = some value) : plainLetter letter = digitLetter value := by
  rw [plainLetter, digit]
  rfl

theorem isMargin_of_digit {letter : Char} {value : Nat}
    (digit : digitValue? letter = some value) : isMargin letter = false := by
  rw [isMargin, isBlank_of_digitValue? digit]
  rfl

theorem isMargin_of_isDigit {letter : Char} (digit : letter.isDigit = true) :
    isMargin letter = false :=
  isMargin_of_digit (digitValue?_of_isDigit digit)

/-- A letter becomes a digit, a space or nothing else. -/
theorem plainLetter_cases (letter : Char) :
    (∃ value, digitValue? letter = some value ∧ plainLetter letter = digitLetter value) ∨
      (digitValue? letter = none ∧ isMargin letter = true ∧ plainLetter letter = ' ') ∨
      (digitValue? letter = none ∧ isMargin letter = false ∧ plainLetter letter = letter) := by
  cases digit : digitValue? letter with
  | some value => exact .inl ⟨value, rfl, plainLetter_of_digit digit⟩
  | none =>
      cases margin : isMargin letter with
      | true => exact .inr (.inl ⟨rfl, rfl, by simp [plainLetter, digit, margin]⟩)
      | false => exact .inr (.inr ⟨rfl, rfl, by simp [plainLetter, digit, margin]⟩)

theorem isMargin_plainLetter (letter : Char) : isMargin (plainLetter letter) = isMargin letter := by
  rcases plainLetter_cases letter with ⟨value, digit, same⟩ | ⟨_, margin, same⟩ | ⟨_, _, same⟩
  · obtain ⟨_, _, _, small⟩ := exists_start_of_digitValue? digit
    rw [same, isMargin_of_digit digit, isMargin_of_isDigit (isDigit_digitLetter small)]
  · rw [same, margin]
    rfl
  · rw [same]

/-- The marks in a numeral. -/
def isMark (letter : Char) : Bool :=
  letter = '_' || letter = '+' || letter = '-'

/-- Only a mark becomes this mark. -/
theorem plainLetter_eq_iff {letter mark : Char} (marks : isMark mark = true) :
    plainLetter letter = mark ↔ letter = mark := by
  have fixed : plainLetter mark = mark ∧ mark.isDigit = false ∧ mark ≠ ' ' := by
    simp only [isMark, Bool.or_eq_true, decide_eq_true_eq] at marks
    rcases marks with (rfl | rfl) | rfl <;> decide
  constructor
  · intro same
    rcases plainLetter_cases letter with ⟨value, digit, other⟩ | ⟨_, _, other⟩ | ⟨_, _, other⟩
    · obtain ⟨_, _, _, small⟩ := exists_start_of_digitValue? digit
      have isDigit := isDigit_digitLetter small
      rw [← other, same, fixed.2.1] at isDigit
      cases isDigit
    · exact absurd (same.symm.trans other) fixed.2.2
    · exact other.symm.trans same
  · rintro rfl
    exact fixed.1

/-! ## Margins -/

/-- The text without the margins at both ends. -/
def inside (text : Text) : Text :=
  Text.dropEnd isMargin (text.dropWhile isMargin)

theorem plain_eq (text : Text) : plain text = (inside text).map plainLetter := by
  have unchanged : isMargin ∘ plainLetter = isMargin := funext isMargin_plainLetter
  unfold plain inside Text.dropEnd
  rw [List.dropWhile_map, unchanged, ← List.map_reverse, List.dropWhile_map, unchanged,
    List.map_reverse]

theorem exists_margins (text : Text) :
    ∃ before after, text = before ++ inside text ++ after ∧
      (∀ letter ∈ before, isMargin letter = true) ∧ ∀ letter ∈ after, isMargin letter = true := by
  have start := List.takeWhile_append_dropWhile (p := isMargin) (l := text)
  have rest := List.takeWhile_append_dropWhile (p := isMargin)
    (l := (text.dropWhile isMargin).reverse)
  have back := congrArg List.reverse rest
  rw [List.reverse_append, List.reverse_reverse] at back
  refine ⟨text.takeWhile isMargin,
    ((text.dropWhile isMargin).reverse.takeWhile isMargin).reverse, ?_,
    fun letter member => List.mem_takeWhile_imp member,
    fun letter member => List.mem_takeWhile_imp (List.mem_reverse.mp member)⟩
  rw [List.append_assoc, inside, Text.dropEnd, back, start]

/-- Margins around letters that are none are taken away. -/
theorem inside_append {before core after : Text} (filled : core ≠ [])
    (first : ∀ letter ∈ before, isMargin letter = true)
    (apart : ∀ letter ∈ core, isMargin letter = false)
    (last : ∀ letter ∈ after, isMargin letter = true) :
    inside (before ++ core ++ after) = core := by
  have kept {rest core : Text} (filled : core ≠ [])
      (apart : ∀ letter ∈ core, isMargin letter = false) :
      (core ++ rest).dropWhile isMargin = core ++ rest := by
    obtain ⟨letter, others, rfl⟩ := List.exists_cons_of_ne_nil filled
    exact List.dropWhile_cons_of_neg (by simp [apart letter List.mem_cons_self])
  unfold inside Text.dropEnd
  rw [List.append_assoc, List.dropWhile_append_of_pos first, kept filled apart,
    List.reverse_append,
    List.dropWhile_append_of_pos fun letter member => last letter (List.mem_reverse.mp member)]
  have reversed := @kept [] core.reverse (by simpa using filled)
    (fun letter member => apart letter (List.mem_reverse.mp member))
  rw [List.append_nil] at reversed
  rw [reversed, List.reverse_reverse]

/-! ## Runs of digits -/

/-- A run of digits, an underscore allowed between two of them, with the values of the digits. -/
inductive IsDigitRun : Text → List Nat → Prop where
  | last {letter : Char} {value : Nat} (digit : digitValue? letter = some value) :
      IsDigitRun [letter] [value]
  | next {letter : Char} {value : Nat} {text : Text} {values : List Nat}
      (digit : digitValue? letter = some value) (rest : IsDigitRun text values) :
      IsDigitRun (letter :: text) (value :: values)
  | joined {letter : Char} {value : Nat} {text : Text} {values : List Nat}
      (digit : digitValue? letter = some value) (rest : IsDigitRun text values) :
      IsDigitRun (letter :: '_' :: text) (value :: values)

namespace IsDigitRun

theorem exists_first {text : Text} {values : List Nat} (run : IsDigitRun text values) :
    ∃ letter value rest, text = letter :: rest ∧ digitValue? letter = some value := by
  cases run with
  | last digit | next digit _ | joined digit _ => exact ⟨_, _, _, rfl, digit⟩

theorem ne_nil {text : Text} {values : List Nat} (run : IsDigitRun text values) : values ≠ [] := by
  cases run <;> exact List.cons_ne_nil _ _

theorem isMargin_eq_false {text : Text} {values : List Nat} (run : IsDigitRun text values) :
    ∀ letter ∈ text, isMargin letter = false := by
  induction run with
  | last digit => simpa using isMargin_of_digit digit
  | next digit _ ih => simpa [isMargin_of_digit digit] using ih
  | joined digit _ ih =>
      have mark : isMargin '_' = false := by decide
      simpa [isMargin_of_digit digit, mark] using ih

theorem lt_ten {text : Text} {values : List Nat} (run : IsDigitRun text values) :
    ∀ value ∈ values, value < 10 := by
  induction run with
  | last digit =>
      obtain ⟨_, _, _, small⟩ := exists_start_of_digitValue? digit
      simpa using small
  | next digit _ ih | joined digit _ ih =>
      obtain ⟨_, _, _, small⟩ := exists_start_of_digitValue? digit
      simpa [small] using ih

end IsDigitRun

theorem joined?_letter {letter : Char} (other : letter ≠ '_') (previous : Bool) (rest : Text) :
    joined? previous (letter :: rest) = (joined? letter.isDigit rest).map (letter :: ·) :=
  joined?.eq_4 _ _ _ other

/-- The underscores of a run are taken out of its plain letters. -/
theorem joined?_of_run {text : Text} {values : List Nat} (run : IsDigitRun text values)
    (previous : Bool) :
    joined? previous (text.map plainLetter) = some (values.map digitLetter) := by
  have isDigit {letter : Char} {value : Nat} (digit : digitValue? letter = some value) :
      (plainLetter letter).isDigit = true ∧ plainLetter letter ≠ '_' := by
    obtain ⟨_, _, _, small⟩ := exists_start_of_digitValue? digit
    rw [plainLetter_of_digit digit]
    have isDigit := isDigit_digitLetter small
    exact ⟨isDigit, fun same => absurd (same ▸ isDigit) (by decide)⟩
  induction run generalizing previous with
  | last digit =>
      rw [List.map_singleton, joined?_letter (isDigit digit).2, plainLetter_of_digit digit]
      rfl
  | next digit _ ih =>
      rw [List.map_cons, joined?_letter (isDigit digit).2, ih, plainLetter_of_digit digit]
      rfl
  | joined digit rest ih =>
      obtain ⟨first, value, others, rfl, firstDigit⟩ := rest.exists_first
      have mark : plainLetter '_' = '_' := by decide
      rw [List.map_cons, joined?_letter (isDigit digit).2, (isDigit digit).1, List.map_cons, mark,
        List.map_cons, joined?, (isDigit firstDigit).1, ← List.map_cons, Bool.and_self, if_pos rfl,
        ih, plainLetter_of_digit digit]
      rfl

/-- Plain letters whose underscores can be taken out so that digits are left are a run of digits, or
what may follow a digit in one. -/
theorem run_of_joined? {text digits : Text} {previous : Bool}
    (success : joined? previous (text.map plainLetter) = some digits)
    (all : ∀ letter ∈ digits, letter.isDigit = true) :
    (text = [] ∧ digits = []) ∨ ∃ values, digits = values.map digitLetter ∧
      (IsDigitRun text values ∨
        previous = true ∧ ∃ rest, text = '_' :: rest ∧ IsDigitRun rest values) := by
  induction text generalizing previous digits with
  | nil => exact .inl ⟨rfl, (Option.some.inj success).symm⟩
  | cons letter rest ih =>
      right
      by_cases mark : letter = '_'
      · have plain : plainLetter letter = '_' := (plainLetter_eq_iff (by decide)).mpr mark
        rw [List.map_cons, plain] at success
        cases rest with
        | nil => cases success
        | cons next tail =>
            rw [List.map_cons, joined?] at success
            split at success
            · next between =>
                rw [Bool.and_eq_true] at between
                rw [← List.map_cons] at success
                obtain ⟨absent, _⟩ | ⟨values, same, run | ⟨after, _⟩⟩ := ih success all
                · cases absent
                · exact ⟨values, same, .inr ⟨between.1, _, by rw [mark], run⟩⟩
                · cases after
            · cases success
      · have plain : plainLetter letter ≠ '_' := mt (plainLetter_eq_iff (by decide)).mp mark
        rw [List.map_cons, joined?_letter plain] at success
        obtain ⟨others, taken, rfl⟩ := Option.map_eq_some_iff.mp success
        have isDigit := all _ List.mem_cons_self
        obtain ⟨value, digit⟩ : ∃ value, digitValue? letter = some value := by
          rcases plainLetter_cases letter with ⟨value, digit, _⟩ | ⟨_, _, same⟩ | ⟨_, _, same⟩
          · exact ⟨value, digit⟩
          · rw [same] at isDigit
            cases isDigit
          · rw [same] at isDigit
            exact ⟨_, digitValue?_of_isDigit isDigit⟩
        rw [isDigit] at taken
        have remaining := ih taken fun other member => all other (List.mem_cons_of_mem _ member)
        rw [plainLetter_of_digit digit]
        obtain ⟨rfl, rfl⟩ | ⟨values, rfl, run | ⟨_, tail, rfl, run⟩⟩ := remaining
        · exact ⟨[value], rfl, .inl (.last digit)⟩
        · exact ⟨value :: values, rfl, .inl (.next digit run)⟩
        · exact ⟨value :: values, rfl, .inl (.joined digit run)⟩

/-- The number that the values of decimal digits make. -/
def valueOf (values : List Nat) : Nat :=
  values.foldl (fun number digit => number * 10 + digit) 0

theorem natural?_map {values : List Nat} (filled : values ≠ [])
    (small : ∀ value ∈ values, value < 10) :
    natural? 10 (values.map digitLetter) = some (valueOf values) := by
  have general : ∀ (values : List Nat) (start : Nat), (∀ value ∈ values, value < 10) →
      (values.map digitLetter).foldlM
        (fun number letter => (digitIn? 10 letter).map (number * 10 + ·)) start =
      some (values.foldl (fun number digit => number * 10 + digit) start) := by
    intro values
    induction values with
    | nil => exact fun _ _ => rfl
    | cons value rest ih =>
        intro start small
        have below := small value List.mem_cons_self
        rw [List.map_cons, List.foldlM_cons, Json.digitIn?_of_isDigit (isDigit_digitLetter below),
          toNat_digitLetter below]
        exact ih _ fun other member => small other (List.mem_cons_of_mem _ member)
  have some' : (values.map digitLetter).isEmpty = false := by simpa using filled
  rw [natural?, some', if_neg Bool.false_ne_true, general values 0 small]
  rfl

theorem isDigit_of_digitIn? {letter : Char} {value : Nat}
    (digit : digitIn? 10 letter = some value) : letter.isDigit = true := by
  by_contra other
  have bounds : (letter.isLower = true → 97 ≤ letter.toNat) ∧
      (letter.isUpper = true → 65 ≤ letter.toNat) := by
    constructor
    · intro lower
      have start : 'a'.val ≤ letter.val := of_decide_eq_true (Bool.and_eq_true_iff.mp lower).1
      exact UInt32.le_iff_toNat_le.mp start
    · intro upper
      have start : 'A'.val ≤ letter.val := (of_decide_eq_true upper).1
      exact UInt32.le_iff_toNat_le.mp start
  have large : 10 ≤ (if letter.isLower then letter.toNat - 87
      else if letter.isUpper then letter.toNat - 55 else 10) := by
    split
    · next lower =>
        have := bounds.1 lower
        omega
    · split
      · next upper =>
          have := bounds.2 upper
          omega
      · exact Nat.le_refl 10
  unfold digitIn? at digit
  rw [if_neg other, if_neg (Nat.not_lt.mpr large)] at digit
  cases digit

theorem isDigit_of_natural? {digits : Text} {number : Nat}
    (success : natural? 10 digits = some number) :
    digits ≠ [] ∧ ∀ letter ∈ digits, letter.isDigit = true := by
  have general : ∀ (digits : Text) (start number : Nat),
      digits.foldlM (fun number letter => (digitIn? 10 letter).map (number * 10 + ·)) start =
        some number → ∀ letter ∈ digits, letter.isDigit = true := by
    intro digits
    induction digits with
    | nil => exact fun _ _ _ _ none => nomatch none
    | cons first rest ih =>
        intro start number success letter member
        rw [List.foldlM_cons] at success
        obtain ⟨next, here, success⟩ := Option.bind_eq_some_iff.mp success
        obtain ⟨value, digit, _⟩ := Option.map_eq_some_iff.mp here
        rcases List.mem_cons.mp member with rfl | inRest
        · exact isDigit_of_digitIn? digit
        · exact ih _ _ success letter inRest
  unfold natural? at success
  split at success
  · cases success
  · next filled => exact ⟨by simpa using filled, general digits 0 number success⟩

/-! ## Integers -/

/-- A sign, or none, and the factor that it stands for. -/
inductive IsSign : Text → Int → Prop where
  | absent : IsSign [] 1
  | plus : IsSign ['+'] 1
  | minus : IsSign ['-'] (-1)

theorem IsSign.isMargin_eq_false {sign : Text} {factor : Int} (isSign : IsSign sign factor) :
    ∀ letter ∈ sign, isMargin letter = false := by
  have marks : isMargin '+' = false ∧ isMargin '-' = false := by decide
  cases isSign <;> simp [marks]

/-- The text spells the integer: margins stand around a sign and a run of digits that are not too
many. -/
inductive Spells : Text → Int → Prop where
  | intro {before sign digits after : Text} {factor : Int} {values : List Nat}
      (first : ∀ letter ∈ before, isMargin letter = true) (signed : IsSign sign factor)
      (run : IsDigitRun digits values) (short : values.length ≤ greatestLength)
      (last : ∀ letter ∈ after, isMargin letter = true) :
      Spells (before ++ (sign ++ digits) ++ after) (factor * valueOf values)

/-- What follows the sign of a text in plain letters is what follows it in the text. -/
theorem exists_signed (text : Text) :
    ∃ negative sign rest, text = sign ++ rest ∧ IsSign sign (if negative then -1 else 1) ∧
      signed (text.map plainLetter) = (negative, rest.map plainLetter) := by
  cases text with
  | nil => exact ⟨false, [], [], rfl, .absent, rfl⟩
  | cons letter rest =>
      rw [List.map_cons]
      by_cases minus : letter = '-'
      · have plain : plainLetter letter = '-' := (plainLetter_eq_iff (by decide)).mpr minus
        exact ⟨true, ['-'], rest, by rw [minus]; rfl, .minus, by rw [plain]; rfl⟩
      · by_cases plus : letter = '+'
        · have plain : plainLetter letter = '+' := (plainLetter_eq_iff (by decide)).mpr plus
          exact ⟨false, ['+'], rest, by rw [plus]; rfl, .plus, by rw [plain]; rfl⟩
        · refine ⟨false, [], letter :: rest, rfl, .absent, signed.eq_3 _ ?_ ?_⟩
          · exact fun _ same => minus ((plainLetter_eq_iff (by decide)).mp (List.cons.inj same).1)
          · exact fun _ same => plus ((plainLetter_eq_iff (by decide)).mp (List.cons.inj same).1)

/-- A sign in front of a run of digits is taken off the plain letters. -/
theorem signed_of_run {sign digits : Text} {factor : Int} {values : List Nat}
    (isSign : IsSign sign factor) (run : IsDigitRun digits values) :
    ∃ negative, signed ((sign ++ digits).map plainLetter) = (negative, digits.map plainLetter) ∧
      factor = if negative then -1 else 1 := by
  cases isSign with
  | absent =>
      obtain ⟨letter, value, rest, rfl, digit⟩ := run.exists_first
      refine ⟨false, signed.eq_3 _ ?_ ?_, rfl⟩
      all_goals
        intro _ same
        rw [(plainLetter_eq_iff (by decide)).mp (List.cons.inj same).1] at digit
        cases digit
  | plus => exact ⟨false, rfl, rfl⟩
  | minus => exact ⟨true, rfl, rfl⟩

theorem integer?_eq (text : Text) :
    integer? text = (joined? false (signed (plain text)).2).bind fun digits =>
      if greatestLength < digits.length then none
      else (natural? 10 digits).map fun (number : Nat) =>
        (if (signed (plain text)).1 then -1 else 1) * (number : Int) := by
  unfold integer?
  cases signed (plain text) with
  | mk negative digits =>
      change (joined? false digits).bind _ = _
      congr 1
      funext digits
      cases negative <;> simp only [Bool.false_eq_true, if_false, if_true, neg_one_mul, one_mul]
      all_goals
        split
        · rfl
        · cases natural? 10 digits <;> rfl

/-- A sign and a run of digits between margins are read as the integer that they spell, unless the
digits are too many. -/
theorem integer?_of_run {before sign digits after : Text} {factor : Int} {values : List Nat}
    (first : ∀ letter ∈ before, isMargin letter = true) (isSign : IsSign sign factor)
    (run : IsDigitRun digits values) (last : ∀ letter ∈ after, isMargin letter = true) :
    integer? (before ++ (sign ++ digits) ++ after) =
      if greatestLength < values.length then none else some (factor * valueOf values) := by
  obtain ⟨negative, taken, rfl⟩ := signed_of_run isSign run
  obtain ⟨letter, value, rest, same, _⟩ := run.exists_first
  have apart : ∀ letter ∈ sign ++ digits, isMargin letter = false := by
    intro letter member
    rcases List.mem_append.mp member with inSign | inDigits
    · exact isSign.isMargin_eq_false letter inSign
    · exact run.isMargin_eq_false letter inDigits
  rw [integer?_eq, plain_eq, inside_append (by simp [same]) first apart last, taken]
  simp only [joined?_of_run run, Option.bind_some, List.length_map,
    natural?_map run.ne_nil run.lt_ten, Option.map_some]

/-- A text is read as an integer if and only if it spells this integer. -/
theorem integer?_eq_some_iff {text : Text} {number : Int} :
    integer? text = some number ↔ Spells text number := by
  constructor
  · intro success
    obtain ⟨before, after, parts, first, last⟩ := exists_margins text
    obtain ⟨negative, sign, rest, split, isSign, taken⟩ := exists_signed (inside text)
    rw [integer?_eq, plain_eq, taken] at success
    obtain ⟨digits, joined, success⟩ := Option.bind_eq_some_iff.mp success
    split at success
    · cases success
    · next short =>
        obtain ⟨magnitude, natural, made⟩ := Option.map_eq_some_iff.mp success
        obtain ⟨filled, all⟩ := isDigit_of_natural? natural
        obtain ⟨_, empty⟩ | ⟨values, rfl, run | ⟨absent, _⟩⟩ := run_of_joined? joined all
        · exact absurd empty filled
        · rw [natural?_map run.ne_nil run.lt_ten] at natural
          rw [parts, split, ← made, ← Option.some.inj natural]
          exact .intro first isSign run (by simpa using short) last
        · cases absent
  · rintro ⟨first, isSign, run, short, last⟩
    rw [integer?_of_run first isSign run last, if_neg (Nat.not_lt.mpr short)]

/-! ## Decimals -/

theorem run_of_digits {digits : Text} (filled : digits ≠ [])
    (all : ∀ letter ∈ digits, letter.isDigit = true) :
    IsDigitRun digits (digits.map fun letter => letter.toNat - '0'.toNat) := by
  induction digits with
  | nil => exact absurd rfl filled
  | cons letter rest ih =>
      have digit := digitValue?_of_isDigit (all letter List.mem_cons_self)
      cases rest with
      | nil => exact .last digit
      | cons next others =>
          exact .next digit (ih (List.cons_ne_nil _ _) fun other member =>
            all other (List.mem_cons_of_mem _ member))

theorem digitLetter_toNat {letter : Char} (digit : letter.isDigit = true) :
    digitLetter (letter.toNat - '0'.toNat) = letter := by
  have bounds : 48 ≤ letter.toNat ∧ letter.toNat ≤ 57 := by
    simpa [Char.isDigit, UInt32.le_iff_toNat_le] using digit
  have number : letter.toNat - '0'.toNat + 48 = letter.toNat :=
    Nat.sub_add_cancel bounds.1
  rw [digitLetter, number, Char.ofNat_toNat]

/-- The decimal digits of a number are read as this number, unless they are too many. -/
theorem integer?_ofNat (number : Nat) :
    integer? (Text.ofNat number) =
      if greatestLength < (Text.ofNat number).length then none else some (number : Int) := by
  have filled := Json.ofNat_ne_nil number
  have all : ∀ letter ∈ Text.ofNat number, letter.isDigit = true :=
    fun _ => Json.isDigit_of_mem_ofNat
  have run := run_of_digits filled all
  have letters : ((Text.ofNat number).map fun letter => letter.toNat - '0'.toNat).map digitLetter =
      Text.ofNat number := by
    rw [List.map_map]
    exact (List.map_congr_left fun letter member => digitLetter_toNat (all letter member)).trans
      (List.map_id _)
  have value := natural?_map run.ne_nil run.lt_ten
  rw [letters, Json.natural?_ofNat] at value
  have read := @integer?_of_run [] [] _ [] _ _ (by simp) .absent run (by simp)
  rw [one_mul, ← Option.some.inj value, List.length_map, List.append_nil] at read
  exact read

end Numeral
end ApiForge
