import SentinelRounds.Text.Digits
import SentinelRounds.Toml.Reader
import SentinelRounds.Wire.Tree

/-! Settings values that are written without quotes or brackets. -/

namespace SentinelRounds

namespace Toml

namespace Scalar

/-- The digits of a numeral, in which single underscores may stand between digits. -/
def digits? (isDigit : Char → Bool) : List Char → Option (List Char)
  -- An underscore has to have a digit on each side.
  | [] => none
  | [c] => if isDigit c then some [c] else none
  | c :: '_' :: rest => if isDigit c then (digits? isDigit rest).map (c :: ·) else none
  | c :: rest => if isDigit c then (digits? isDigit rest).map (c :: ·) else none

/-- The number that the digits of a numeral spell in a base. -/
def natural? (base : Nat) (isDigit : Char → Bool) (numeral : List Char) : Option Nat := do
  let digits ← digits? isDigit numeral
  let values ← digits.mapM Digits.hexValue?
  pure (Digits.ofValues base values)

/-- Whether a character is a hexadecimal digit. -/
def isHex (c : Char) : Bool := (Digits.hexValue? c).isSome

/-- Whether a character is an octal digit. -/
def isOctal (c : Char) : Bool := '0' ≤ c && c ≤ '7'

/-- Whether a character is a binary digit. -/
def isBinary (c : Char) : Bool := c == '0' || c == '1'

/-- A decimal numeral that does not start with a zero it does not need. -/
def decimal? (numeral : List Char) : Option Nat :=
  -- A leading zero is left to the marks of other bases.
  if numeral.head? = some '0' ∧ numeral ≠ ['0'] then none
  else natural? 10 Char.isDigit numeral

/-- One past the largest integer that a file can say. -/
def limit : Int := 9223372036854775808

/-- Whether an integer fits the eight bytes that files have for it. -/
def fits (n : Int) : Bool := -limit ≤ n && n < limit

/-- An integer: decimal with an optional sign, or after the mark of another base without one. -/
def integer? (token : List Char) : Option Int :=
  -- A sign has to stand right before the digits.
  let value : Option Int :=
    match token with
    | '0' :: 'x' :: rest => (natural? 16 isHex rest).map Int.ofNat
    | '0' :: 'o' :: rest => (natural? 8 isOctal rest).map Int.ofNat
    | '0' :: 'b' :: rest => (natural? 2 isBinary rest).map Int.ofNat
    | '-' :: rest => (decimal? rest).map fun n => -Int.ofNat n
    | '+' :: rest => (decimal? rest).map Int.ofNat
    | rest => (decimal? rest).map Int.ofNat
  value.filter fits

/-- A token without its sign, and whether that sign is a minus. -/
def unsigned : List Char → Bool × List Char
  | '-' :: rest => (true, rest)
  | '+' :: rest => (false, rest)
  | rest => (false, rest)

/-- The part before the first character of a class, and the part after it if there is one. -/
def cut (isMark : Char → Bool) (text : List Char) : List Char × Option (List Char) :=
  -- The mark itself belongs to neither part.
  match text.dropWhile fun c => !isMark c with
  | [] => (text, none)
  | _ :: rest => (text.takeWhile fun c => !isMark c, some rest)

/-- Whether a decimal number is too large for eight bytes of floating point. -/
def isHuge (significand : Nat) (exponent : Int) : Bool :=
  -- A power of ten is only taken where it is of the size of the numeral itself.
  let limit := Nat.pow 2 1024 - Nat.pow 2 970
  if significand = 0 then false
  else if 400 < exponent then true
  else if 0 ≤ exponent then limit ≤ significand * Nat.pow 10 exponent.toNat
  else if Int.ofNat significand.log2 < -exponent then false
  else limit * Nat.pow 10 (-exponent).toNat ≤ significand

/--
Whether a token is a number with a fraction or an exponent, or stands for none; a number that is too
large counts only if it is negative.
-/
def isReal (token : List Char) : Bool :=
  -- Infinity and what is no number may have a sign as well.
  let (negative, token) := unsigned token
  if token = ['i', 'n', 'f'] ∨ token = ['n', 'a', 'n'] then true
  else
    let (mantissa, exponent) := cut (fun c => c == 'e' || c == 'E') token
    let (whole, fraction) := cut (fun c => c == '.') mantissa
    let power : Option Int :=
      match exponent with
      | none => some 0
      | some text =>
        let (downwards, numeral) := unsigned text
        (natural? 10 Char.isDigit numeral).map fun n => if downwards then -Int.ofNat n else n
    let decimals : Option (List Char) :=
      match fraction with
      | none => some []
      | some text => digits? Char.isDigit text
    match decimal? whole, decimals, power with
    | some n, some decimals, some power =>
      let values := decimals.map fun c => c.toNat - '0'.toNat
      let significand := values.foldl (fun n d => 10 * n + d) n
      (fraction.isSome || exponent.isSome) &&
        (negative || !isHuge significand (power - decimals.length))
    | _, _, _ => false

/-- The number that a fixed number of decimal digits spells. -/
def counted? (width : Nat) (text : List Char) : Option Nat :=
  if text.length = width ∧ text.all Char.isDigit then
    some (Digits.ofValues 10 (text.map fun c => c.toNat - '0'.toNat))
  else none

/-- The number of days of a month. -/
def daysIn (year month : Nat) : Nat :=
  -- Every fourth year is a leap year, but of the full centuries only every fourth.
  if month = 2 then
    if year % 4 = 0 ∧ (year % 100 ≠ 0 ∨ year % 400 = 0) then 29 else 28
  else if [4, 6, 9, 11].contains month then 30
  else 31

/-- Whether a text is a date. -/
def isDate : List Char → Bool
  | [y₁, y₂, y₃, y₄, '-', m₁, m₂, '-', d₁, d₂] =>
    match counted? 4 [y₁, y₂, y₃, y₄], counted? 2 [m₁, m₂], counted? 2 [d₁, d₂] with
    | some year, some month, some day =>
      1 ≤ month && month ≤ 12 && 1 ≤ day && day ≤ daysIn year month
    | _, _, _ => false
  | _ => false

/-- Whether a text is an hour and a minute. -/
def isClock : List Char → Bool
  | [h₁, h₂, ':', m₁, m₂] =>
    match counted? 2 [h₁, h₂], counted? 2 [m₁, m₂] with
    | some hour, some minute => hour < 24 && minute < 60
    | _, _ => false
  | _ => false

/-- Whether a text is the distance of a clock from universal time, or says nothing of it. -/
def isOffset : List Char → Bool
  | [] | ['Z'] | ['z'] => true
  | sign :: rest => (sign == '+' || sign == '-') && isClock rest

/-- Whether a text is a time; after a date, its distance from universal time may follow. -/
def isTime (dated : Bool) (text : List Char) : Bool :=
  -- The seconds may be a leap second, and a fraction of them may have any length.
  let tail := text.drop 5
  match tail with
  | ':' :: s₁ :: s₂ :: rest =>
    let rest : Option (List Char) :=
      match rest with
      | '.' :: decimals =>
        if (decimals.head?.any Char.isDigit) then some (decimals.dropWhile Char.isDigit) else none
      | rest => some rest
    isClock (text.take 5) && (counted? 2 [s₁, s₂]).any (· ≤ 60) &&
      rest.any fun rest => if dated then isOffset rest else rest.isEmpty
  | _ => false

/-- Whether a token is a date, a time, or a date and a time with a letter between them. -/
def isMoment (token : List Char) : Bool :=
  -- A distance from universal time makes sense only together with a date.
  isTime false token || isDate token ||
    isDate (token.take 10) && match token.drop 10 with
      | 'T' :: time | 't' :: time => isTime true time
      | _ => false

/-- The value of a token. -/
def ofToken? (token : List Char) : Option Tree :=
  -- Words come first, then integers, then all that has a point, an exponent or a colon.
  if token = ['t', 'r', 'u', 'e'] then some (.flag true)
  else if token = ['f', 'a', 'l', 's', 'e'] then some (.flag false)
  else
    match integer? token with
    | some n => some (.integer n)
    | none =>
      if isReal token then some .real
      else if isMoment token then some .moment
      else none

/-- Whether a character may belong to a token. -/
def isToken (c : Char) : Bool := c.isAlphanum || ['+', '-', '_', '.', ':'].contains c

/-- Reads a value without quotes or brackets; only a blank between a date and a time belongs to one. -/
def read : Reader Tree := fun text =>
  -- A date with a blank and a time behind it is one value of two tokens.
  let token := text.takeWhile isToken
  let rest := text.dropWhile isToken
  match isDate token, rest with
  | true, ' ' :: more =>
    if isTime true (more.takeWhile isToken) then some (.moment, more.dropWhile isToken)
    else some (.moment, rest)
  | _, _ => (ofToken? token).map fun tree => (tree, rest)

end Scalar

end Toml

end SentinelRounds
