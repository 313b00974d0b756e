import ApiForge.Text.Utf8

/-!
# Decoding what was encoded

A text that has bytes is read back from them. Its characters are decoded one by
one, since the bytes of a character say where it ends; only a lone surrogate
keeps a text from having bytes.
-/

namespace ApiForge.Utf8

theorem toNat_toUInt8 {number : Nat} (small : number < 0x100) : number.toUInt8.toNat = number :=
  UInt8.toNat_ofNat_of_lt' small

/-! ## Single characters -/

theorem decodeFrom_begun {number : Nat} {state : Partial} (begins : lead number.toUInt8 = .begun state)
    (rest : List UInt8) :
    decodeFrom none (number.toUInt8 :: rest) = decodeFrom (some state) rest := by
  rw [decodeFrom, begins]

/-- The last byte of a character, in the range that is expected, ends it. -/
theorem decodeFrom_last {low high bits tail : Nat} (small : tail < 0x40) (least : low ≤ 0x80 + tail)
    (most : 0x80 + tail ≤ high) (rest : List UInt8) :
    decodeFrom (some ⟨1, low, high, bits⟩) ((0x80 + tail).toUInt8 :: rest) =
      some (Char.ofNat (bits * 0x40 + tail)) :: decodeFrom none rest := by
  have byte : (0x80 + tail).toUInt8.toNat = 0x80 + tail := toNat_toUInt8 (by omega)
  simp only [decodeFrom, byte, Nat.add_sub_cancel_left]
  rw [if_pos ⟨least, most⟩, if_pos trivial]

/-- An earlier byte adds its six bits. -/
theorem decodeFrom_next {owed low high bits tail : Nat} (small : tail < 0x40)
    (least : low ≤ 0x80 + tail) (most : 0x80 + tail ≤ high) (rest : List UInt8) :
    decodeFrom (some ⟨owed + 2, low, high, bits⟩) ((0x80 + tail).toUInt8 :: rest) =
      decodeFrom (some ⟨owed + 1, 0x80, 0xBF, bits * 0x40 + tail⟩) rest := by
  have byte : (0x80 + tail).toUInt8.toNat = 0x80 + tail := toNat_toUInt8 (by omega)
  simp only [decodeFrom, byte, Nat.add_sub_cancel_left]
  rw [if_pos ⟨least, most⟩, if_neg (by omega)]
  rfl

theorem lead_of_two {number : Nat} (low : 0x80 ≤ number) (high : number < 0x800) :
    lead (0xC0 + number / 0x40).toUInt8 = .begun ⟨1, 0x80, 0xBF, number / 0x40⟩ := by
  unfold lead
  rw [toNat_toUInt8 (by omega)]
  dsimp only
  rw [if_neg (by omega), if_neg (by omega), if_pos (by omega), Nat.add_sub_cancel_left]

/-- The first of three bytes leaves out what is shorter and what is half of a pair. -/
theorem exists_lead_of_three (number : Nat) (low : 0x800 ≤ number) (high : number < 0x10000)
    (whole : number < 0xD800 ∨ 0xDFFF < number) :
    ∃ least most, lead (0xE0 + number / 0x1000).toUInt8 =
        .begun ⟨2, least, most, number / 0x1000⟩ ∧
      least ≤ 0x80 + number / 0x40 % 0x40 ∧ 0x80 + number / 0x40 % 0x40 ≤ most := by
  unfold lead
  rw [toNat_toUInt8 (by omega)]
  dsimp only
  rw [if_neg (by omega), if_neg (by omega), if_neg (by omega)]
  by_cases least : number / 0x1000 = 0
  · exact ⟨0xA0, 0xBF, by rw [if_pos (by omega), least], by omega, by omega⟩
  by_cases halves : number / 0x1000 = 13
  · exact ⟨0x80, 0x9F, by rw [if_neg (by omega), if_pos (by omega), halves], by omega, by omega⟩
  refine ⟨0x80, 0xBF, ?_, by omega, by omega⟩
  rw [if_neg (by omega), if_neg (by omega), if_pos (by omega), Nat.add_sub_cancel_left]

/-- The first of four bytes leaves out what is shorter and what is past the last plane. -/
theorem exists_lead_of_four (number : Nat) (low : 0x10000 ≤ number) (high : number < 0x110000) :
    ∃ least most, lead (0xF0 + number / 0x40000).toUInt8 =
        .begun ⟨3, least, most, number / 0x40000⟩ ∧
      least ≤ 0x80 + number / 0x1000 % 0x40 ∧ 0x80 + number / 0x1000 % 0x40 ≤ most := by
  unfold lead
  rw [toNat_toUInt8 (by omega)]
  dsimp only
  rw [if_neg (by omega), if_neg (by omega), if_neg (by omega), if_neg (by omega), if_neg (by omega),
    if_neg (by omega)]
  by_cases least : number / 0x40000 = 0
  · exact ⟨0x90, 0xBF, by rw [if_pos (by omega), least], by omega, by omega⟩
  by_cases last : number / 0x40000 = 4
  · refine ⟨0x80, 0x8F, ?_, by omega, by omega⟩
    rw [if_neg (by omega), if_neg (by omega), if_pos (by omega), last]
  refine ⟨0x80, 0xBF, ?_, by omega, by omega⟩
  rw [if_neg (by omega), if_pos (by omega), Nat.add_sub_cancel_left]

/-- The bytes of a character are decoded to it, whatever follows them. -/
theorem decodeFrom_encodeChar (letter : Char) (rest : List UInt8) :
    decodeFrom none (encodeChar letter ++ rest) = some letter :: decodeFrom none rest := by
  have whole : letter.toNat < 0xD800 ∨ 0xDFFF < letter.toNat ∧ letter.toNat < 0x110000 :=
    letter.valid
  unfold encodeChar
  dsimp only
  by_cases one : letter.toNat < 0x80
  · rw [if_pos one, List.singleton_append, decodeFrom, lead, toNat_toUInt8 (by omega), if_pos one,
      Char.ofNat_toNat]
  rw [if_neg one]
  by_cases two : letter.toNat < 0x800
  · have bits : letter.toNat / 0x40 * 0x40 + letter.toNat % 0x40 = letter.toNat := by omega
    rw [if_pos two]
    simp only [List.cons_append, List.nil_append]
    rw [decodeFrom_begun (lead_of_two (by omega) two),
      decodeFrom_last (by omega) (by omega) (by omega), bits, Char.ofNat_toNat]
  rw [if_neg two]
  by_cases three : letter.toNat < 0x10000
  · obtain ⟨least, most, begins, low, high⟩ :=
      exists_lead_of_three letter.toNat (by omega) three (by omega)
    have bits : (letter.toNat / 0x1000 * 0x40 + letter.toNat / 0x40 % 0x40) * 0x40 +
        letter.toNat % 0x40 = letter.toNat := by omega
    rw [if_pos three]
    simp only [List.cons_append, List.nil_append]
    rw [decodeFrom_begun begins, decodeFrom_next (by omega) low high,
      decodeFrom_last (by omega) (by omega) (by omega), bits, Char.ofNat_toNat]
  rw [if_neg three]
  obtain ⟨least, most, begins, low, high⟩ :=
    exists_lead_of_four letter.toNat (by omega) (by omega)
  have bits : ((letter.toNat / 0x40000 * 0x40 + letter.toNat / 0x1000 % 0x40) * 0x40 +
      letter.toNat / 0x40 % 0x40) * 0x40 + letter.toNat % 0x40 = letter.toNat := by omega
  simp only [List.cons_append, List.nil_append]
  rw [decodeFrom_begun begins, decodeFrom_next (by omega) low high,
    decodeFrom_next (by omega) (by omega) (by omega),
    decodeFrom_last (by omega) (by omega) (by omega), bits, Char.ofNat_toNat]

/-! ## Texts -/

theorem encodeAt_eq_ok_iff {text : Text} {position : Nat} {bytes : List UInt8} :
    encodeAt position text = .ok bytes ↔
      (∀ letter ∈ text, isLoneSurrogate letter = false) ∧ bytes = text.flatMap encodeChar := by
  induction text generalizing position bytes with
  | nil =>
      constructor
      · intro encoded
        exact ⟨by simp, (Except.ok.inj encoded).symm⟩
      · rintro ⟨_, rfl⟩
        rfl
  | cons letter rest ih =>
      rw [encodeAt, List.forall_mem_cons, List.flatMap_cons]
      cases lone : isLoneSurrogate letter with
      | true => simp
      | false =>
          simp only [Bool.false_eq_true, if_false, true_and]
          constructor
          · intro encoded
            cases others : encodeAt (position + 1) rest with
            | error stretch =>
                rw [others] at encoded
                cases encoded
            | ok bytes =>
                rw [others] at encoded
                obtain ⟨clean, rfl⟩ := ih.mp others
                exact ⟨clean, (Except.ok.inj encoded).symm⟩
          · rintro ⟨clean, rfl⟩
            rw [ih.mpr ⟨clean, rfl⟩]
            rfl

/-- Exactly the texts without lone surrogates have bytes. -/
theorem encode_eq_ok_iff {text : Text} {bytes : List UInt8} :
    encode text = .ok bytes ↔
      (∀ letter ∈ text, isLoneSurrogate letter = false) ∧ bytes = text.flatMap encodeChar :=
  encodeAt_eq_ok_iff

theorem mapM_id_map_some {α : Type} (items : List α) : (items.map some).mapM id = some items := by
  induction items with
  | nil => rfl
  | cons item rest ih => rw [List.map_cons, List.mapM_cons, ih]; rfl

theorem decode_flatMap_encodeChar (text : Text) :
    decode (text.flatMap encodeChar) = text.map some := by
  induction text with
  | nil => rfl
  | cons letter rest ih =>
      rw [List.flatMap_cons, decode, decodeFrom_encodeChar, List.map_cons]
      exact congrArg _ ih

/-- A text is read back from its bytes. -/
theorem decodeStrict?_of_encode {text : Text} {bytes : List UInt8}
    (encoded : encode text = .ok bytes) : decodeStrict? bytes = some text := by
  obtain ⟨_, rfl⟩ := encode_eq_ok_iff.mp encoded
  rw [decodeStrict?, decode_flatMap_encodeChar, mapM_id_map_some]

end ApiForge.Utf8
