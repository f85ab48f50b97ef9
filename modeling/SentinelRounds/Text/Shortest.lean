/-! The shortest decimal text that names a binary fraction. -/

namespace SentinelRounds

namespace Shortest

/-- A positive rational number, as a quotient. -/
structure Ratio where
  num : Nat
  den : Nat

/-- The quotient `n · 2 ^ q`. -/
def Ratio.ofBinary (n : Nat) (q : Int) : Ratio :=
  -- A negative exponent goes into the denominator.
  if 0 ≤ q then ⟨n * Nat.pow 2 q.toNat, 1⟩ else ⟨n, Nat.pow 2 (-q).toNat⟩

/-- The quotient divided by a power of ten. -/
def Ratio.shift (r : Ratio) (exponent : Int) : Ratio :=
  if 0 ≤ exponent then ⟨r.num, r.den * Nat.pow 10 exponent.toNat⟩
  else ⟨r.num * Nat.pow 10 (-exponent).toNat, r.den⟩

/-- Whether one quotient is below another. -/
def Ratio.below (a b : Ratio) : Bool := a.num * b.den < b.num * a.den

/-- How many places after the point come before the first nonzero digit's place, up to a bound. -/
def leadingPlaces (r : Ratio) : (fuel : Nat) → (places : Nat) → Nat
  | 0, places => places
  | fuel + 1, places =>
    if r.num * Nat.pow 10 places < r.den then leadingPlaces r fuel (places + 1) else places

/-- The place of the first nonzero digit: zero for units, positive to the left of them. -/
def magnitude (r : Ratio) : Int :=
  if r.den ≤ r.num then ((Nat.toDigits 10 (r.num / r.den)).length : Int) - 1
  else -(leadingPlaces r 400 1 : Int)

/-- Digits and the place of the last of them. -/
structure Decimal where
  digits : Nat
  place : Int

/-- Among the decimals with the given last place, the one nearest to the value that names it. -/
def onGrid (value low high : Ratio) (closed : Bool) (place : Int) : Option Decimal :=
  -- Only the two grid neighbours of the value can lie between the ends and be nearest.
  let scaled := value.shift place
  let floor := scaled.num / scaled.den
  let rest := scaled.num % scaled.den
  let inside (n : Nat) : Bool :=
    let point : Ratio := ⟨n, 1⟩
    let low := low.shift place
    let high := high.shift place
    if closed then !point.below low && !high.below point
    else low.below point && point.below high
  let lower := inside floor && 0 < floor
  let upper := inside (floor + 1)
  if lower && upper then
    if 2 * rest < scaled.den ∨ (2 * rest = scaled.den ∧ floor % 2 = 0) then some ⟨floor, place⟩
    else some ⟨floor + 1, place⟩
  else if lower then some ⟨floor, place⟩
  else if upper then some ⟨floor + 1, place⟩
  else none

/-- The first grid, from coarse to fine, on which some decimal names the value. -/
def search (value low high : Ratio) (closed : Bool) : (fuel : Nat) → (place : Int) → Decimal
  | 0, place => ⟨0, place⟩
  | fuel + 1, place =>
    match onGrid value low high closed place with
    | some decimal => decimal
    | none => search value low high closed fuel (place - 1)

/-- The shortest decimal for `m · 2 ^ q`, whose lower neighbour is nearer at a power of two. -/
def ofBinary (m : Nat) (q : Int) (narrow : Bool) : Decimal :=
  -- Every real between the midpoints to the two neighbours names the value.
  let value := Ratio.ofBinary (4 * m) (q - 2)
  let low := Ratio.ofBinary (4 * m - if narrow then 1 else 2) (q - 2)
  let high := Ratio.ofBinary (4 * m + 2) (q - 2)
  search value low high (m % 2 == 0) 18 (magnitude value)

/-- Drops zeros at the end of the digits. -/
def strip : (fuel : Nat) → Decimal → Decimal
  | 0, decimal => decimal
  | fuel + 1, decimal =>
    if decimal.digits ≠ 0 ∧ decimal.digits % 10 = 0 then
      strip fuel ⟨decimal.digits / 10, decimal.place + 1⟩
    else decimal

/-- The digits of a number in two places at least. -/
def twoDigits (n : Nat) : List Char :=
  let digits := Nat.toDigits 10 n
  if digits.length < 2 then '0' :: digits else digits

/-- A decimal as text: positional for moderate sizes, otherwise with an exponent. -/
def Decimal.text (decimal : Decimal) : List Char :=
  -- A number without a fraction still shows one zero after the point.
  let decimal := strip 400 decimal
  let digits := Nat.toDigits 10 decimal.digits
  let exponent := decimal.place + (digits.length : Int) - 1
  if 0 ≤ exponent ∧ exponent ≤ 15 then
    if 0 ≤ decimal.place then
      digits ++ List.replicate decimal.place.toNat '0' ++ ['.', '0']
    else
      let whole := (exponent + 1).toNat
      digits.take whole ++ ['.'] ++ digits.drop whole
  else if -5 ≤ exponent ∧ exponent < 0 then
    ['0', '.'] ++ List.replicate (-exponent - 1).toNat '0' ++ digits
  else
    let fraction := match digits.drop 1 with
      | [] => []
      | rest => '.' :: rest
    let sign := if 0 ≤ exponent then '+' else '-'
    digits.take 1 ++ fraction ++ ['e', sign] ++ twoDigits exponent.natAbs

/-- The shortest text of a finite binary fraction. -/
def ofFloat (x : Float) : String :=
  -- The stored bits give the sign, the fraction, and the exponent.
  let bits := x.toBits.toNat
  let sign := if Nat.pow 2 63 ≤ bits then ['-'] else []
  let fraction : Nat := bits % Nat.pow 2 52
  let exponent : Nat := bits / Nat.pow 2 52 % Nat.pow 2 11
  if fraction = 0 ∧ exponent = 0 then String.ofList (sign ++ ['0', '.', '0'])
  else
    let decimal :=
      if exponent = 0 then ofBinary fraction (-1074) false
      else ofBinary (Nat.pow 2 52 + fraction) ((exponent : Int) - 1075) (fraction = 0 && 1 < exponent)
    String.ofList (sign ++ decimal.text)

end Shortest

end SentinelRounds
