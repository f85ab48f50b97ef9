import SentinelRounds.Text.Digits

/-! The decimal digits of a number spell that number. -/

namespace SentinelRounds

namespace Digits

/-- The byte of a digit is a digit. -/
theorem isDigit_ofDigit : ∀ d < 10, isDigit (ofDigit d) = true := by decide

/-- The byte of a digit has the value of that digit. -/
theorem value_ofDigit : ∀ d < 10, value (ofDigit d) = d := by decide

/-- Digits in two rows are the digits of the first and then those of the second. -/
theorem pushAll_append (n : Nat) (first second : Bytes) :
    pushAll n (first ++ second) = pushAll (pushAll n first) second := by
  simp only [pushAll, List.foldl_append]

/-- More digits make no smaller number. -/
theorem le_pushAll (n : Nat) (digits : Bytes) : n ≤ pushAll n digits := by
  -- A digit more makes ten times the number, or more.
  induction digits generalizing n with
  | nil => exact Nat.le_refl _
  | cons b digits ih =>
    have tail := ih (10 * n + value b)
    simp only [pushAll, List.foldl_cons] at tail ⊢
    omega

/-- The digits of a number are digits that spell it, and a leading zero stands alone. -/
theorem encode_spells (n : Nat) :
    (∀ b ∈ encode n, isDigit b = true) ∧ pushAll 0 (encode n) = n ∧
      ∃ first others, encode n = first :: others ∧ (first = 0x30 → others = []) := by
  -- The induction is on the number, whose last digit is split off.
  induction n using Nat.strongRecOn with
  | ind n ih =>
    rw [encode]
    split
    · -- A number below ten is its one digit.
      rename_i small
      refine ⟨?_, ?_, _, _, rfl, fun _ => rfl⟩
      · intro b member
        rw [List.mem_singleton] at member
        subst member
        exact isDigit_ofDigit n small
      · simp only [pushAll, List.foldl_cons, List.foldl_nil, value_ofDigit n small]
        omega
    · rename_i large
      have last : n % 10 < 10 := Nat.mod_lt _ (by decide)
      obtain ⟨all, spells, first, others, shape, leading⟩ := ih (n / 10) (by omega)
      refine ⟨?_, ?_, first, others ++ [ofDigit (n % 10)], by rw [shape]; rfl, ?_⟩
      · intro b member
        rcases List.mem_append.mp member with member | member
        · exact all b member
        · rw [List.mem_singleton] at member
          subst member
          exact isDigit_ofDigit _ last
      · rw [pushAll_append, spells]
        simp only [pushAll, List.foldl_cons, List.foldl_nil, value_ofDigit _ last]
        omega
      · -- A number with a leading zero is zero, and this one has a digit more.
        intro zero
        have alone := leading zero
        subst zero alone
        rw [shape] at spells
        have value : pushAll 0 [0x30] = 0 := by decide
        omega

end Digits

end SentinelRounds
