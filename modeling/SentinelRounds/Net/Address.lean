import SentinelRounds.Text.Digits
import SentinelRounds.Text.Split

/-! Numeric network addresses and their written forms. -/

namespace SentinelRounds

/-- A numeric address: four bytes, or eight groups of sixteen bits. -/
inductive Address
  | v4 (a b c d : Nat)
  | v6 (groups : List Nat)
  deriving DecidableEq, Repr

namespace Address

/-- The number that decimal digits spell, if there are any and nothing else. -/
def decimal? (digits : List Char) : Option Nat :=
  -- The number is not bounded here.
  if digits.isEmpty || !digits.all Char.isDigit then none
  else some (digits.foldl (fun n d => 10 * n + (d.toNat - '0'.toNat)) 0)

/-- A byte in decimal, without leading zeros. -/
def octet? (digits : List Char) : Option Nat :=
  -- A leading zero would leave open which base is meant.
  match decimal? digits with
  | some n => if n < 256 ∧ (digits.length = 1 ∨ digits.head? ≠ some '0') then some n else none
  | none => none

/-- Four bytes in decimal with points between them. -/
def ofDotted? (text : List Char) : Option Address :=
  -- The points split the text, so each part is without any.
  match (Split.all '.' text).mapM octet? with
  | some [a, b, c, d] => some (.v4 a b c d)
  | _ => none

/-- A group of one to four hexadecimal digits. -/
def group? (digits : List Char) : Option Nat :=
  if digits.isEmpty || 4 < digits.length then none
  else (digits.mapM Digits.hexValue?).map (Digits.ofValues 16)

/-- Groups with colons between them, the last two perhaps as four decimal bytes. -/
def groups? : List (List Char) → Option (List Nat)
  -- Only the last part may be an address of its own kind.
  | [] => some []
  | [last] =>
    match group? last, ofDotted? last with
    | some n, _ => some [n]
    | none, some (.v4 a b c d) => some [256 * a + b, 256 * c + d]
    | none, _ => none
  | part :: parts => do
    let n ← group? part
    let rest ← groups? parts
    pure (n :: rest)

/-- The groups of one side of a double colon; nothing at all is no group. -/
def side? (text : List Char) : Option (List Nat) :=
  -- Nothing need stand on either side of a double colon.
  if text.isEmpty then some [] else groups? (Split.all ':' text)

/-- The text before and after the first double colon. -/
def cutDouble : List Char → Option (List Char × List Char)
  | ':' :: ':' :: rest => some ([], rest)
  | c :: rest => (cutDouble rest).map fun (before, after) => (c :: before, after)
  | [] => none

/-- Eight groups, or fewer around a double colon that stands for zeros. -/
def ofGroups? (text : List Char) : Option Address :=
  -- A double colon stands for one group at least.
  match cutDouble text with
  | some (before, after) => do
    let front ← side? before
    let back ← side? after
    if front.length + back.length < 8 then
      some (.v6 (front ++ List.replicate (8 - front.length - back.length) 0 ++ back))
    else none
  | none => do
    let groups ← side? text
    if groups.length = 8 then some (.v6 groups) else none

/-- The address that a host names by number; groups may stand in brackets. -/
def ofHost? (host : String) : Option Address :=
  match host.toList with
  | '[' :: rest => if rest.getLast? = some ']' then ofGroups? rest.dropLast else none
  | text => (ofDotted? text).or (ofGroups? text)

/-- The longest row of zero groups, of two at least: where it starts and how long it is. -/
def zeroRow (index : Nat) (best : Nat × Nat) (run : Nat) : List Nat → Nat × Nat
  -- A row counts when it is longer than every row before it.
  | [] => best
  | group :: rest =>
    let run := if group = 0 then run + 1 else 0
    let best := if best.2 < run ∧ 2 ≤ run then (index + 1 - run, run) else best
    zeroRow (index + 1) best run rest

/-- Groups in hexadecimal with colons between them. -/
def joinGroups (groups : List Nat) : String :=
  ":".intercalate (groups.map fun group => String.ofList (Nat.toDigits 16 group))

/-- The written form of an address. -/
def text : Address → String
  | .v4 a b c d => s!"{a}.{b}.{c}.{d}"
  | .v6 groups =>
    -- An address of four bytes that is wrapped shows them in decimal.
    match groups with
    | [0, 0, 0, 0, 0, 0xFFFF, high, low] =>
      s!"::ffff:{high / 256}.{high % 256}.{low / 256}.{low % 256}"
    | _ =>
      match zeroRow 0 (0, 0) 0 groups with
      | (_, 0) => joinGroups groups
      | (start, length) =>
        joinGroups (groups.take start) ++ "::" ++ joinGroups (groups.drop (start + length))

/-- The written form of an address with a port. -/
def endpoint (address : Address) (port : Nat) : String :=
  match address with
  | .v4 .. => s!"{address.text}:{port}"
  | .v6 _ => s!"[{address.text}]:{port}"

end Address

end SentinelRounds
