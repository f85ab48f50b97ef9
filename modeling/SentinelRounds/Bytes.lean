/-! Byte strings and the fixed-width numbers written into them. -/

namespace SentinelRounds

/-- A finite byte string, in the order its bytes travel. -/
abbrev Bytes := List UInt8

/-- No allocation has as many bytes as this, and nobody returns from asking for so many. -/
def allocationBound : Nat := Nat.pow 2 63 - 1

namespace Bytes

/-- The `width` low bytes of `n`, least significant first. -/
def ofNat : (width : Nat) → (n : Nat) → Bytes
  -- Each step emits the low byte and leaves the quotient for the bytes above it.
  | 0, _ => []
  | width + 1, n => UInt8.ofNat (n % 256) :: ofNat width (n / 256)

/-- How many numbers some bytes can hold. -/
def bound : (width : Nat) → Nat
  -- Every byte holds 256 digits.
  | 0 => 1
  | width + 1 => 256 * bound width

/-- The number whose bytes, least significant first, are `bytes`. -/
def toNat : Bytes → Nat
  -- The head is the low digit in base 256.
  | [] => 0
  | low :: high => low.toNat + 256 * toNat high

/-- The bytes of a character string that is known to be plain ASCII. -/
def ofAscii (text : String) : Bytes :=
  -- Every caller passes a literal of the format, so each character is one byte.
  text.toList.map fun c => UInt8.ofNat c.toNat

@[simp] theorem length_ofNat (width n : Nat) : (ofNat width n).length = width := by
  -- One byte is emitted per unit of width.
  induction width generalizing n with
  | zero => rfl
  | succ width ih => simp [ofNat, ih]

/-- Writing and reading back loses only what does not fit the width. -/
theorem toNat_ofNat (width n : Nat) : toNat (ofNat width n) = n % bound width := by
  -- The low byte is the remainder, and the bytes above it hold the quotient.
  induction width generalizing n with
  | zero => simp [ofNat, toNat, bound, Nat.mod_one]
  | succ width ih =>
    have low : (UInt8.ofNat (n % 256)).toNat = n % 256 :=
      UInt8.toNat_ofNat_of_lt (Nat.mod_lt _ (by decide))
    rw [ofNat, toNat, ih, low, bound, Nat.mod_mul]

/-- A byte string is below the bound given by its length. -/
theorem toNat_lt (bytes : Bytes) : toNat bytes < bound bytes.length := by
  -- Adding one more high byte multiplies the bound by 256.
  induction bytes with
  | nil => simp [toNat, bound]
  | cons low high ih =>
    have := low.toNat_lt
    simp only [toNat, List.length_cons, bound]
    omega

/-- Reading a byte string and writing it at its own length restores it. -/
theorem ofNat_toNat (bytes : Bytes) : ofNat bytes.length (toNat bytes) = bytes := by
  -- Division by 256 separates the low byte from the rest.
  induction bytes with
  | nil => rfl
  | cons low high ih =>
    have bound := low.toNat_lt
    have remainder : (low.toNat + 256 * toNat high) % 256 = low.toNat := by omega
    have quotient : (low.toNat + 256 * toNat high) / 256 = toNat high := by omega
    simp [toNat, ofNat, remainder, quotient, ih]

/-- Values that take space are at most as many as the bytes they take. -/
theorem length_le_flatMap {α : Type} {put : α → Bytes} (solid : ∀ value, put value ≠ [])
    (values : List α) : values.length ≤ (values.flatMap put).length := by
  -- Every value adds at least one byte.
  induction values with
  | nil => exact Nat.zero_le _
  | cons value values ih =>
    have some := List.length_pos_iff.mpr (solid value)
    rw [List.flatMap_cons, List.length_append, List.length_cons]
    omega

end Bytes

end SentinelRounds
