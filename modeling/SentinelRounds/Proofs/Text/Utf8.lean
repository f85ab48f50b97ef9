import SentinelRounds.Text.Utf8

/-! Characters written as UTF-8 read back as they were, and nothing else is read. -/

namespace SentinelRounds

/-- A result that has been converted comes from one that was there. -/
theorem Except.map_eq_ok {ε α β : Type} {found : Except ε α} {change : α → β} {value : β}
    (made : found.map change = .ok value) : ∃ inner, found = .ok inner ∧ change inner = value := by
  -- A fault is not converted.
  cases found with
  | error fault => cases made
  | ok inner =>
    cases made
    exact ⟨inner, rfl, rfl⟩

namespace Utf8

/-- The value of a byte made of a small number. -/
theorem toNat_byte {n : Nat} (small : n < 256) : (UInt8.ofNat n).toNat = n :=
  UInt8.toNat_ofNat_of_lt small

/-- A continuation byte is one. -/
@[simp] theorem isTail_tailByte (n : Nat) : isTail (tailByte n) = true := by
  -- The value is the mark of a continuation and six bits.
  have value : (tailByte n).toNat = 0x80 + n % 64 := toNat_byte (by omega)
  -- The two high bits say that it continues a character.
  simp only [isTail, value, Bool.and_eq_true, decide_eq_true_eq]
  omega

/-- A continuation byte carries the six low bits. -/
@[simp] theorem tailBits_tailByte (n : Nat) : tailBits (tailByte n) = n % 64 := by
  -- The mark is a multiple of what six bits hold.
  have value : (tailByte n).toNat = 0x80 + n % 64 := toNat_byte (by omega)
  rw [tailBits, value]
  omega

/-- A code point is written as itself, or in bytes that are no plain characters. -/
theorem mem_encodePoint {n : Nat} (valid : n < 0x110000) {b : UInt8}
    (member : b ∈ encodePoint n) : b.toNat = n ∨ 0x80 ≤ b.toNat := by
  -- Neither continuation bytes nor the first bytes of longer writings are plain characters.
  have tail : ∀ bits, 0x80 ≤ (tailByte bits).toNat := by
    intro bits
    have value : (tailByte bits).toNat = 0x80 + bits % 64 := toNat_byte (by omega)
    omega
  have lead : ∀ first, 0x80 ≤ first → first < 256 → 0x80 ≤ (UInt8.ofNat first).toNat := by
    intro first large small
    rw [toNat_byte small]
    exact large
  -- The cases are the lengths that a writing may have.
  unfold encodePoint at member
  split at member
  · rw [List.mem_singleton] at member
    subst member
    exact .inl (toNat_byte (by omega))
  · refine .inr ?_
    split at member
    · simp only [List.mem_cons, List.not_mem_nil, or_false] at member
      rcases member with rfl | rfl
      · exact lead _ (by omega) (by omega)
      · exact tail _
    · split at member
      · simp only [List.mem_cons, List.not_mem_nil, or_false] at member
        rcases member with rfl | rfl | rfl
        · exact lead _ (by omega) (by omega)
        · exact tail _
        · exact tail _
      · simp only [List.mem_cons, List.not_mem_nil, or_false] at member
        rcases member with rfl | rfl | rfl | rfl
        · exact lead _ (by omega) (by omega)
        · exact tail _
        · exact tail _
        · exact tail _

/-- A character is no surrogate. -/
theorem toNat_valid (c : Char) :
    c.toNat < 0xD800 ∨ 0xDFFF < c.toNat ∧ c.toNat < 0x110000 := by
  -- The type of characters says so of each of them.
  have valid := c.valid
  unfold UInt32.isValidChar Nat.isValidChar at valid
  exact valid

/-- The writing of a character reads as that character, whatever follows it. -/
theorem decodeFrom_encodePoint (c : Char) (offset : Nat) (rest : Bytes) :
    decodeFrom offset (encodePoint c.toNat ++ rest) =
      consPoint c.toNat (decodeFrom (offset + (encodePoint c.toNat).length) rest) := by
  -- The reader finds the length of the writing in its first byte.
  have valid := toNat_valid c
  generalize c.toNat = n at valid
  unfold encodePoint
  -- The cases are the lengths that a writing may have.
  split
  · rename_i one
    have lead : (UInt8.ofNat n).toNat = n := toNat_byte (by omega)
    rw [List.cons_append, decodeFrom.eq_def]
    simp only [lead, if_pos one, List.nil_append, List.length_cons, List.length_nil]
  · split
    · rename_i one two
      have lead : (UInt8.ofNat (0xC0 + n / 64)).toNat = 0xC0 + n / 64 := toNat_byte (by omega)
      have not1 : ¬ 0xC0 + n / 64 < 0x80 := by omega
      have two' : 0xC2 ≤ 0xC0 + n / 64 ∧ 0xC0 + n / 64 < 0xE0 := by omega
      have value : (0xC0 + n / 64) % 32 * 64 + n % 64 = n := by omega
      rw [List.cons_append, decodeFrom.eq_def]
      simp only [lead, if_neg not1, if_pos two', List.cons_append, List.nil_append,
        isTail_tailByte, if_true, tailBits_tailByte, value, List.length_cons, List.length_nil]
    · split
      · rename_i one two three
        have lead : (UInt8.ofNat (0xE0 + n / 4096)).toNat = 0xE0 + n / 4096 :=
          toNat_byte (by omega)
        have second : (tailByte (n / 64)).toNat = 0x80 + n / 64 % 64 := toNat_byte (by omega)
        have not1 : ¬ 0xE0 + n / 4096 < 0x80 := by omega
        have not2 : ¬ (0xC2 ≤ 0xE0 + n / 4096 ∧ 0xE0 + n / 4096 < 0xE0) := by omega
        have three' : 0xE0 ≤ 0xE0 + n / 4096 ∧ 0xE0 + n / 4096 < 0xF0 := by omega
        have proper : secondOfThree (UInt8.ofNat (0xE0 + n / 4096)) (tailByte (n / 64)) = true := by
          simp only [secondOfThree, isTail_tailByte, lead, second, Bool.true_and,
            Bool.and_eq_true, Bool.or_eq_true, bne_iff_ne, ne_eq, decide_eq_true_eq]
          omega
        have value : (0xE0 + n / 4096) % 16 * 4096 + n / 64 % 64 * 64 + n % 64 = n := by omega
        rw [List.cons_append, decodeFrom.eq_def]
        simp only [lead, if_neg not1, if_neg not2, if_pos three', List.cons_append,
          List.nil_append, proper, isTail_tailByte, if_true, tailBits_tailByte, value,
          List.length_cons, List.length_nil]
      · rename_i one two three
        have lead : (UInt8.ofNat (0xF0 + n / 262144)).toNat = 0xF0 + n / 262144 :=
          toNat_byte (by omega)
        have second : (tailByte (n / 4096)).toNat = 0x80 + n / 4096 % 64 := toNat_byte (by omega)
        have not1 : ¬ 0xF0 + n / 262144 < 0x80 := by omega
        have not2 : ¬ (0xC2 ≤ 0xF0 + n / 262144 ∧ 0xF0 + n / 262144 < 0xE0) := by omega
        have not3 : ¬ (0xE0 ≤ 0xF0 + n / 262144 ∧ 0xF0 + n / 262144 < 0xF0) := by omega
        have four' : 0xF0 ≤ 0xF0 + n / 262144 ∧ 0xF0 + n / 262144 < 0xF5 := by omega
        have proper :
            secondOfFour (UInt8.ofNat (0xF0 + n / 262144)) (tailByte (n / 4096)) = true := by
          simp only [secondOfFour, isTail_tailByte, lead, second, Bool.true_and,
            Bool.and_eq_true, Bool.or_eq_true, bne_iff_ne, ne_eq, decide_eq_true_eq]
          omega
        have value : (0xF0 + n / 262144) % 8 * 262144 + n / 4096 % 64 * 4096 +
            n / 64 % 64 * 64 + n % 64 = n := by omega
        rw [List.cons_append, decodeFrom.eq_def]
        simp only [lead, if_neg not1, if_neg not2, if_neg not3, if_pos four', List.cons_append,
          List.nil_append, proper, isTail_tailByte, if_true, tailBits_tailByte, value,
          List.length_cons, List.length_nil]

/-- The writing of some characters reads as these characters. -/
theorem decodeFrom_encodeChars (text : List Char) (offset : Nat) :
    decodeFrom offset (encodeChars text) = .ok text := by
  -- Each character leaves the rest where the next one begins.
  induction text generalizing offset with
  | nil => exact decodeFrom.eq_def _ _
  | cons c text ih =>
    rw [encodeChars, List.flatMap_cons, decodeFrom_encodePoint, ← encodeChars, ih, consPoint,
      Char.ofNat_toNat]
    rfl

/-- The writing of a string reads as that string. -/
theorem decode_encode (text : String) : decode (encode text) = .ok text := by
  -- Nothing follows the last character.
  rw [decode, encode, decodeFrom_encodeChars]
  simp only [Except.map, String.ofList_toList]

/-- A continuation byte is the one that carries its bits. -/
theorem tailByte_eq {n : Nat} {b : UInt8} (tail : isTail b = true) (bits : n % 64 = tailBits b) :
    tailByte n = b := by
  -- The bits and the mark together make up the value of the byte.
  simp only [isTail, Bool.and_eq_true, decide_eq_true_eq] at tail
  have value : (tailByte n).toNat = 0x80 + n % 64 := toNat_byte (by omega)
  apply UInt8.toNat_inj.mp
  unfold tailBits at bits
  omega

/-- A byte is made of its own value. -/
theorem byte_eq {n : Nat} {b : UInt8} (value : n = b.toNat) : UInt8.ofNat n = b := by
  rw [value, UInt8.ofNat_toNat]

section Points

variable {a b c d : UInt8}

/-- A plain character is written as its own byte. -/
theorem encodePoint_one (one : a.toNat < 0x80) : encodePoint a.toNat = [a] := by
  rw [encodePoint, if_pos one, UInt8.ofNat_toNat]

/-- What two bytes are read as is no surrogate, and is written as these bytes. -/
theorem encodePoint_two (lead : 0xC2 ≤ a.toNat ∧ a.toNat < 0xE0) (tail : isTail b = true) :
    let n := a.toNat % 32 * 64 + tailBits b
    n.isValidChar ∧ encodePoint n = [a, b] := by
  -- Five bits come from the first byte, and six from the second.
  intro n
  have bits : tailBits b < 64 := Nat.mod_lt _ (by decide)
  have range : 0x80 ≤ n ∧ n < 0x800 := by omega
  have front : UInt8.ofNat (0xC0 + n / 64) = a := byte_eq (by omega)
  refine ⟨.inl (by omega), ?_⟩
  rw [encodePoint, if_neg (by omega), if_pos range.2, front, tailByte_eq tail (by omega)]

/-- So with three bytes. -/
theorem encodePoint_three (lead : 0xE0 ≤ a.toNat ∧ a.toNat < 0xF0)
    (second : secondOfThree a b = true) (tail : isTail c = true) :
    let n := a.toNat % 16 * 4096 + tailBits b * 64 + tailBits c
    n.isValidChar ∧ encodePoint n = [a, b, c] := by
  -- Four bits come from the first byte, and six from each of the others.
  intro n
  simp only [secondOfThree, Bool.and_eq_true, Bool.or_eq_true, bne_iff_ne, ne_eq,
    decide_eq_true_eq] at second
  obtain ⟨⟨inner, long⟩, proper⟩ := second
  have range := inner
  simp only [isTail, Bool.and_eq_true, decide_eq_true_eq] at range
  have first : tailBits b = b.toNat - 0x80 := by
    unfold tailBits
    omega
  have last : tailBits c < 64 := Nat.mod_lt _ (by decide)
  -- The second byte keeps the value above those of two bytes, and out of the surrogates.
  have wide : 0x800 ≤ n ∧ n < 0x10000 := by omega
  have plain : n < 0xD800 ∨ 0xDFFF < n := by omega
  have front : UInt8.ofNat (0xE0 + n / 4096) = a := byte_eq (by omega)
  refine ⟨plain.imp_right fun above => ⟨above, by omega⟩, ?_⟩
  rw [encodePoint, if_neg (by omega), if_neg (by omega), if_pos wide.2, front,
    tailByte_eq inner (by omega), tailByte_eq tail (by omega)]

/-- So with four bytes. -/
theorem encodePoint_four (lead : 0xF0 ≤ a.toNat ∧ a.toNat < 0xF5)
    (second : secondOfFour a b = true) (third : isTail c = true) (tail : isTail d = true) :
    let n := a.toNat % 8 * 262144 + tailBits b * 4096 + tailBits c * 64 + tailBits d
    n.isValidChar ∧ encodePoint n = [a, b, c, d] := by
  -- Three bits come from the first byte, and six from each of the others.
  intro n
  simp only [secondOfFour, Bool.and_eq_true, Bool.or_eq_true, bne_iff_ne, ne_eq,
    decide_eq_true_eq] at second
  obtain ⟨⟨inner, long⟩, proper⟩ := second
  have range := inner
  simp only [isTail, Bool.and_eq_true, decide_eq_true_eq] at range
  have first : tailBits b = b.toNat - 0x80 := by
    unfold tailBits
    omega
  have middle : tailBits c < 64 := Nat.mod_lt _ (by decide)
  have last : tailBits d < 64 := Nat.mod_lt _ (by decide)
  -- The second byte keeps the value above those of three bytes, and below the end of the code.
  have wide : 0x10000 ≤ n ∧ n < 0x110000 := by omega
  have front : UInt8.ofNat (0xF0 + n / 262144) = a := byte_eq (by omega)
  refine ⟨.inr (by omega), ?_⟩
  rw [encodePoint, if_neg (by omega), if_neg (by omega), if_neg (by omega), front,
    tailByte_eq inner (by omega), tailByte_eq third (by omega), tailByte_eq tail (by omega)]

end Points

/-- A code point that is a character is written in front of the others. -/
theorem encodeChars_cons {n : Nat} (valid : n.isValidChar) (text : List Char) :
    encodeChars (Char.ofNat n :: text) = encodePoint n ++ encodeChars text := by
  -- A valid code point is the one of its character.
  have value : (Char.ofNat n).toNat = n := by
    rw [Char.ofNat, dif_pos valid]
    rfl
  rw [encodeChars, List.flatMap_cons, value, encodeChars]

/-- Bytes that can be read are the writing of what they are read as. -/
theorem eq_encodeChars {offset : Nat} {bytes : Bytes} {text : List Char}
    (read : decodeFrom offset bytes = .ok text) : bytes = encodeChars text := by
  -- The cases are those of the reader: four widths of a character, and the faults.
  fun_induction decodeFrom offset bytes generalizing text with
  | case1 =>
    cases read
    rfl
  | case2 offset a rest one ih =>
    -- One byte, below the first that announces more.
    obtain ⟨tail, later, rfl⟩ := Except.map_eq_ok read
    rw [encodeChars_cons (.inl (by omega)), encodePoint_one one, ← ih later]
    rfl
  | case4 offset a _ two b rest tailed ih =>
    -- Two bytes.
    obtain ⟨tail, later, rfl⟩ := Except.map_eq_ok read
    obtain ⟨valid, written⟩ := encodePoint_two two tailed
    rw [encodeChars_cons valid, written, ← ih later]
    rfl
  | case8 offset a _ _ three b second c rest tailed ih =>
    -- Three bytes, where the surrogates are left out.
    obtain ⟨tail, later, rfl⟩ := Except.map_eq_ok read
    obtain ⟨valid, written⟩ := encodePoint_three three second tailed
    rw [encodeChars_cons valid, written, ← ih later]
    rfl
  | case14 offset a _ _ _ four b second c third d rest tailed ih =>
    -- Four bytes, up to the last character there is.
    obtain ⟨tail, later, rfl⟩ := Except.map_eq_ok read
    obtain ⟨valid, written⟩ := encodePoint_four four second third tailed
    rw [encodeChars_cons valid, written, ← ih later]
    rfl
  -- Every other case of the reader is a fault.
  | _ => cases read

/-- Bytes are read as a string exactly if they are its writing. -/
theorem decode_eq_ok_iff {bytes : Bytes} {text : String} :
    decode bytes = .ok text ↔ bytes = encode text := by
  -- What is read determines the bytes, and the bytes what is read.
  constructor
  · intro read
    obtain ⟨chars, points, rfl⟩ := Except.map_eq_ok read
    rw [encode, String.toList_ofList]
    exact eq_encodeChars points
  · rintro rfl
    exact decode_encode text

end Utf8

end SentinelRounds
