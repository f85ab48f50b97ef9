import SentinelRounds.Bytes

/-! Numerals: the decimal digits of a number. -/

namespace SentinelRounds

namespace Digits

/-- The byte of a decimal digit. -/
def ofDigit (d : Nat) : UInt8 := UInt8.ofNat (0x30 + d)

/-- Whether a byte is a decimal digit. -/
def isDigit (b : UInt8) : Bool := 0x30 ≤ b.toNat && b.toNat ≤ 0x39

/-- The value of a decimal digit. -/
def value (b : UInt8) : Nat := b.toNat - 0x30

/-- The decimal digits of a number, most significant first, without leading zeros. -/
def encode (n : Nat) : Bytes :=
  -- The last digit is the remainder and the digits before it are the quotient.
  if n < 10 then [ofDigit n] else encode (n / 10) ++ [ofDigit (n % 10)]

/-- The value of a hexadecimal digit, in either case. -/
def hexValue? (c : Char) : Option Nat :=
  -- Letters count on after the nine.
  if c.isDigit then some (c.toNat - '0'.toNat)
  else if 'a' ≤ c ∧ c ≤ 'f' then some (c.toNat - 'a'.toNat + 10)
  else if 'A' ≤ c ∧ c ≤ 'F' then some (c.toNat - 'A'.toNat + 10)
  else none

/-- The character of a hexadecimal digit, in upper case. -/
def upper (d : Nat) : Char := (Nat.digitChar d).toUpper

/-- The number that a row of digit values spells in a base, most significant first. -/
def ofValues (base : Nat) (values : List Nat) : Nat := values.foldl (fun n d => base * n + d) 0

/-- The number that a row of digits spells after `n`. -/
def pushAll (n : Nat) (digits : Bytes) : Nat :=
  digits.foldl (fun n d => 10 * n + value d) n

end Digits

end SentinelRounds
