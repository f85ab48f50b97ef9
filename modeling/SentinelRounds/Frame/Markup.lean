import SentinelRounds.Bytes

/-! The reserved byte values, of which two close frames and the rest only separate. -/

namespace SentinelRounds

/-- A reserved byte value. -/
inductive Markup
  | null
  | empty
  | line
  | space
  | semicolon
  | comma
  | colon
  | dot
  /-- Closes a chunk of an item that has more chunks. -/
  | block
  /-- Closes the last chunk of an item, or a header. -/
  | final
  deriving DecidableEq, Repr

namespace Markup

/-- Every reserved value, in the order the encodings number them. -/
def all : List Markup :=
  -- The binary encoding of a value is its place in this list.
  [.null, .empty, .line, .space, .semicolon, .comma, .colon, .dot, .block, .final]

/-- The byte a reserved value stands for. -/
def byte : Markup → UInt8
  | .null => 0x00
  | .empty => 0x1A
  | .line => 0x0A
  | .space => 0x20
  | .semicolon => 0x3B
  | .comma => 0x2C
  | .colon => 0x3A
  | .dot => 0x2E
  | .block => 0x17
  | .final => 0x04

/-- The name a reserved value has in messages and in encodings. -/
def name : Markup → String
  | .null => "None"
  | .empty => "Empty"
  | .line => "Line"
  | .space => "Space"
  | .semicolon => "Semi"
  | .comma => "Coma"
  | .colon => "Colon"
  | .dot => "Dot"
  | .block => "Block"
  | .final => "End"

/-- The reserved value a byte stands for, if it is reserved. -/
def ofByte? (b : UInt8) : Option Markup :=
  -- The ten bytes are distinct, so at most one value matches.
  all.find? fun kind => kind.byte == b

/-- The reserved value with the given name. -/
def ofName? (text : String) : Option Markup :=
  -- The ten names are distinct, so at most one value matches.
  all.find? fun kind => kind.name == text

/-- Whether a run of this value closes a frame. -/
def closes : Markup → Bool
  | .block | .final => true
  | _ => false

/-- Whether this value only separates. -/
def separates (kind : Markup) : Bool := !kind.closes

/-- The closing value a byte stands for, if runs of it close frames. -/
def closing? (b : UInt8) : Option Markup :=
  -- Only the two closing bytes are told apart here.
  if b = Markup.block.byte then some .block
  else if b = Markup.final.byte then some .final
  else none

/-- The byte written to break up runs of closing bytes. -/
def escape : Markup := .empty

/-- Reading the byte of a reserved value gives the value back. -/
@[simp] theorem ofByte?_byte (kind : Markup) : ofByte? kind.byte = some kind := by
  -- The ten values are checked one by one.
  cases kind <;> rfl

/-- Reserved values with the same byte are the same. -/
theorem byte_injective {one other : Markup} (same : one.byte = other.byte) : one = other := by
  -- The byte is read back.
  have read := congrArg ofByte? same
  rwa [ofByte?_byte, ofByte?_byte, Option.some.injEq] at read

/-- A byte closes frames exactly when it is the byte of a closing value. -/
theorem closing?_eq_some {b : UInt8} {kind : Markup} :
    closing? b = some kind ↔ kind.closes = true ∧ kind.byte = b := by
  -- Both directions split on the two closing bytes.
  constructor
  · intro found
    unfold closing? at found
    split at found
    · rename_i same
      cases found
      exact ⟨rfl, same.symm⟩
    · split at found
      · rename_i same
        cases found
        exact ⟨rfl, same.symm⟩
      · cases found
  · rintro ⟨closed, rfl⟩
    cases kind <;> first | rfl | simp [closes] at closed

end Markup

end SentinelRounds
