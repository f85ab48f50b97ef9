import SentinelRounds.Net.Settings
import SentinelRounds.Text.Split

/-! What a client is pointed at: a host, or a host and a port. -/

namespace SentinelRounds

/-- The largest port. -/
def maxPort : Nat := 65535

/-- Why a text is no port. -/
inductive PortFault
  | empty
  | badDigit
  | tooLarge
  deriving DecidableEq, Repr

/-- The wording of a fault. -/
def PortFault.message : PortFault → String
  | .empty => "cannot parse integer from empty string"
  | .badDigit => "invalid digit found in string"
  | .tooLarge => "number too large to fit in target type"

namespace Port

/-- The port after one more digit; the first character at fault counts. -/
def push (port : Nat) (c : Char) : Except PortFault Nat :=
  -- The bound is tested digit by digit, so a bad digit after it is never seen.
  if !c.isDigit then .error .badDigit
  else
    let next := 10 * port + (c.toNat - '0'.toNat)
    if maxPort < next then .error .tooLarge else .ok next

/-- The port that decimal digits spell, perhaps after a plus sign. -/
def ofChars : List Char → Except PortFault Nat
  -- A sign alone is no number.
  | [] => .error .empty
  | ['+'] => .error .badDigit
  | '+' :: digits => digits.foldlM push 0
  | digits => digits.foldlM push 0

end Port

/-- The settings of a client that is pointed at a host, or at a host and a port after a colon. -/
def NetSettings.pointedAt (net : NetSettings) (target : String) : Except PortFault NetSettings :=
  -- The last colon counts, so a host may hold colons if a port follows.
  match Split.last? ':' target.toList with
  | none => .ok { net with host := target }
  | some (host, digits) =>
    (Port.ofChars digits).map fun port => { net with host := String.ofList host, port }

end SentinelRounds
