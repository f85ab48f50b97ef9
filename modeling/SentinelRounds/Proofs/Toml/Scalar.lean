import SentinelRounds.Toml.Scalar

/-! Truth values and integers read back as they were written. -/

namespace SentinelRounds

namespace Toml

variable {accepts : Char → Bool} {token rest : List Char}

/-- The longest front of a class ends where a character of no such class follows. -/
theorem span_append (all : ∀ c ∈ token, accepts c = true)
    (stops : ∀ c, rest.head? = some c → accepts c = false) :
    (token ++ rest).takeWhile accepts = token ∧ (token ++ rest).dropWhile accepts = rest := by
  -- What follows adds nothing to the front, for it stops at once.
  have tail : rest.takeWhile accepts = [] ∧ rest.dropWhile accepts = rest := by
    cases rest with
    | nil => exact ⟨rfl, rfl⟩
    | cons c rest => simp [stops c rfl]
  rw [List.takeWhile_append_of_pos all, List.dropWhile_append_of_pos all, tail.1, tail.2,
    List.append_nil]
  exact ⟨rfl, rfl⟩

namespace Scalar

/-- Digits without underscores are all of their numeral. -/
theorem digits?_of_all {digits : List Char} (some_ : digits ≠ [])
    (all : ∀ c ∈ digits, c.isDigit = true) : digits? Char.isDigit digits = some digits := by
  -- The digits are taken one by one, and each may be the last.
  induction digits with
  | nil => exact absurd rfl some_
  | cons c digits ih =>
    obtain ⟨first, others⟩ := List.forall_mem_cons.mp all
    cases digits with
    | nil => simp [digits?, first]
    | cons d digits =>
      -- An underscore is no digit, so the next character is one of the numeral.
      have digit := others d List.mem_cons_self
      have plain : d ≠ '_' := by
        rintro rfl
        cases digit
      have tail := ih (List.cons_ne_nil _ _) others
      rw [digits?]
      · simp [first, tail]
      · simp
      · intro more same
        exact plain (List.cons.inj same).1

/-- The decimal digits of a number spell that number. -/
theorem natural?_toDigits (n : Nat) : natural? 10 Char.isDigit (Nat.toDigits 10 n) = some n := by
  -- The value of a digit is its distance from zero.
  have all : ∀ c ∈ Nat.toDigits 10 n, c.isDigit = true := fun c member =>
    Nat.isDigit_of_mem_toDigits (by decide) (by decide) member
  have values : (Nat.toDigits 10 n).mapM Digits.hexValue? =
      some ((Nat.toDigits 10 n).map fun c => c.toNat - '0'.toNat) := by
    generalize Nat.toDigits 10 n = digits at all
    induction digits with
    | nil => rfl
    | cons c digits ih =>
      obtain ⟨first, others⟩ := List.forall_mem_cons.mp all
      simp [Digits.hexValue?, first, ih others]
  have spelled : Digits.ofValues 10 ((Nat.toDigits 10 n).map fun c => c.toNat - '0'.toNat) = n := by
    rw [Digits.ofValues, List.foldl_map, ← Nat.ofDigitChars_eq_foldl]
    exact Nat.ofDigitChars_ten_toDigits
  simp only [natural?, digits?_of_all Nat.toDigits_ne_nil all, values, spelled,
    Option.bind_eq_bind, Option.bind_some]
  rfl

/-- Only zero starts with a zero. -/
theorem eq_zero_of_head_toDigits {n : Nat} (zero : (Nat.toDigits 10 n).head? = some '0') :
    n = 0 := by
  -- The digits of a number are those of a smaller one, and one more.
  induction n using Nat.strongRecOn with
  | ind n ih =>
    rw [Nat.toDigits_eq_if (by decide)] at zero
    split at zero
    · rename_i small
      have digits : ∀ d < 10, d.digitChar = '0' → d = 0 := by decide
      exact digits n small (Option.some.inj zero)
    · -- The first digit is that of a quotient, which is not zero.
      rename_i large
      obtain ⟨first, others, shape⟩ :=
        List.exists_cons_of_ne_nil (Nat.toDigits_ne_nil (n := n / 10) (b := 10))
      rw [shape, List.cons_append, List.head?_cons] at zero
      have quotient := ih (n / 10) (by omega) (by rw [shape]; exact zero)
      omega

/-- The decimal digits of a number are a numeral without a zero that it does not need. -/
theorem decimal?_toDigits (n : Nat) : decimal? (Nat.toDigits 10 n) = some n := by
  -- A zero in front would be the only digit.
  have leading : ¬ ((Nat.toDigits 10 n).head? = some '0' ∧ Nat.toDigits 10 n ≠ ['0']) := by
    rintro ⟨zero, more⟩
    rw [eq_zero_of_head_toDigits zero] at more
    exact more rfl
  rw [decimal?, if_neg leading, natural?_toDigits]

/-- The written form of an integer: its digits, after a sign if it is negative. -/
def written (n : Int) : List Char :=
  if n < 0 then '-' :: Nat.toDigits 10 n.natAbs else Nat.toDigits 10 n.natAbs

/-- Whatever stands in a written integer is a digit, or the sign in front of the digits. -/
theorem mem_written {n : Int} {c : Char} (member : c ∈ written n) :
    c.isDigit = true ∨ c = '-' := by
  -- The sign is written only for negative numbers.
  have digit (member : c ∈ Nat.toDigits 10 n.natAbs) : c.isDigit = true :=
    Nat.isDigit_of_mem_toDigits (by decide) (by decide) member
  unfold written at member
  split at member
  · exact (List.mem_cons.mp member).symm.imp_left digit
  · exact .inl (digit member)

/-- A written integer has a digit. -/
theorem written_ne_nil (n : Int) : written n ≠ [] := by
  -- With or without a sign, the digits are there.
  unfold written
  split
  · exact List.cons_ne_nil _ _
  · exact Nat.toDigits_ne_nil

/-- An integer that fits is read from its written form. -/
theorem integer?_written {n : Int} (small : fits n = true) : integer? (written n) = some n := by
  -- The sign is read apart from the digits.
  have digit {c : Char} (member : c ∈ Nat.toDigits 10 n.natAbs) : c.isDigit = true :=
    Nat.isDigit_of_mem_toDigits (by decide) (by decide) member
  have number := decimal?_toDigits n.natAbs
  unfold written
  split
  · rename_i negative
    have value : -Int.ofNat n.natAbs = n := by
      have size := Int.ofNat_natAbs_of_nonpos (Int.le_of_lt negative)
      rw [Int.ofNat_eq_natCast]
      omega
    simp only [integer?, number, Option.map_some, value]
    simp [small]
  · rename_i natural
    have value : Int.ofNat n.natAbs = n := Int.natAbs_of_nonneg (Int.not_lt.mp natural)
    generalize Nat.toDigits 10 n.natAbs = digits at digit number
    unfold integer?
    -- Neither the mark of another base nor a sign is a digit.
    split
    · cases digit (c := 'x') (by simp)
    · cases digit (c := 'o') (by simp)
    · cases digit (c := 'b') (by simp)
    · cases digit (c := '-') (by simp)
    · cases digit (c := '+') (by simp)
    · simp only [number, Option.map_some, value]
      simp [small]

/-- Neither a digit nor a sign ends a token, and neither is a part of a date. -/
theorem isToken_of_mem_written {n : Int} {c : Char} (member : c ∈ written n) :
    isToken c = true := by
  -- A token may have digits and signs.
  rcases mem_written member with digit | rfl
  · simp [isToken, Char.isAlphanum, digit]
  · decide

/-- A written integer is no date, in which a sign stands behind the year. -/
theorem isDate_written (n : Int) : isDate (written n) = false := by
  -- A sign stands at most in front.
  have sign : ∀ c ∈ (written n).tail, c ≠ '-' := by
    have digit : ∀ c ∈ Nat.toDigits 10 n.natAbs, c ≠ '-' := by
      rintro c member rfl
      have digit := Nat.isDigit_of_mem_toDigits (by decide) (by decide) member
      cases digit
    unfold written
    split
    · exact digit
    · exact fun c member => digit c (List.mem_of_mem_tail member)
  unfold isDate
  split
  · rename_i shape
    rw [shape] at sign
    exact absurd rfl (sign '-' (by simp))
  · rfl

/-- An integer is neither of the words for truth values. -/
theorem ofToken?_written {n : Int} (small : fits n = true) :
    ofToken? (written n) = some (.integer n) := by
  -- Both words have a letter, and integers have none.
  have letter {c : Char} (member : c ∈ written n) : c ≠ 'e' := by
    rintro rfl
    rcases mem_written member with digit | sign
    · cases digit
    · cases sign
  have words : written n ≠ ['t', 'r', 'u', 'e'] ∧ written n ≠ ['f', 'a', 'l', 's', 'e'] := by
    constructor <;> intro same <;> exact letter (c := 'e') (by rw [same]; decide) rfl
  simp [ofToken?, words, integer?_written small]

/-- A token that is no date is read up to the character that ends it. -/
theorem read_token {tree : Tree} (all : ∀ c ∈ token, isToken c = true)
    (undated : isDate token = false) (stands : ofToken? token = some tree)
    (stops : ∀ c, rest.head? = some c → isToken c = false) :
    read (token ++ rest) = some (tree, rest) := by
  -- The token is taken up to the character that ends it.
  obtain ⟨taken, dropped⟩ := span_append all stops
  simp [read, taken, dropped, undated, stands]

end Scalar

end Toml

end SentinelRounds
