import SentinelRounds.Text.Utf8

/-! The binary layout of values: fixed-width numbers, and lengths before whatever varies. -/

namespace SentinelRounds

namespace Binary

/-- Why bytes are not a value of the expected layout. -/
inductive Fault
  /-- The input ends inside a fixed-width part. -/
  | endOfInput
  /-- The input ends inside the body of a text. -/
  | endOfText
  | badFlag (byte : UInt8)
  | badOption (byte : UInt8)
  | badText (fault : Utf8.Malformed)
  | badChoice (index count : Nat)
  deriving DecidableEq, Repr

/-- The wording of a layout fault. -/
def Fault.message : Fault → String
  | .endOfInput => "io error: unexpected end of file"
  | .endOfText => "io error: "
  | .badFlag byte => s!"invalid u8 while decoding bool, expected 0 or 1, found {byte.toNat}"
  | .badOption byte => s!"tag for enum is not valid, found {byte.toNat}"
  | .badText fault => "string is not valid utf8: " ++ fault.message
  | .badChoice index count =>
    s!"invalid value: integer `{index}`, expected variant index 0 <= i < {count}"

/-- Splits off exactly `count` bytes, if there are that many. -/
def split? : (count : Nat) → Bytes → Option (Bytes × Bytes)
  -- Bytes are split off only if all of them are there.
  | 0, bytes => some ([], bytes)
  | _ + 1, [] => none
  | count + 1, b :: rest => (split? count rest).map fun (taken, rest) => (b :: taken, rest)

/-- How values of a type are written, and read from the front of some bytes. -/
structure Layout (α : Type) where
  put : α → Bytes
  get : Bytes → Except Fault (α × Bytes)

namespace Layout

/-- A layout read through a pair of conversions that undo each other. -/
def via {α β : Type} (layout : Layout α) (build : α → β) (view : β → α) : Layout β where
  -- The bytes are those of the value that is seen.
  put value := layout.put (view value)
  get bytes := (layout.get bytes).map fun (value, rest) => (build value, rest)

/-- A number of `width` bytes, least significant first. -/
def natural (width : Nat) : Layout Nat where
  put n := Bytes.ofNat width n
  get bytes :=
    match split? width bytes with
    | none => .error .endOfInput
    | some (taken, rest) => .ok (Bytes.toNat taken, rest)

/-- A truth value, as a byte that is zero or one. -/
def flag : Layout Bool where
  put value := [if value then 1 else 0]
  get
    | [] => .error .endOfInput
    | b :: rest =>
      -- Any other byte is refused, so every value has exactly one writing.
      if b = 0 then .ok (false, rest)
      else if b = 1 then .ok (true, rest)
      else .error (.badFlag b)

/-- A text, as its length in bytes and its bytes. -/
def text : Layout String where
  put value :=
    -- The length counts bytes, not characters.
    let body := Utf8.encode value
    Bytes.ofNat 8 body.length ++ body
  get bytes :=
    match split? 8 bytes with
    | none => .error .endOfInput
    | some (count, rest) =>
      -- The length is trusted only as far as there are bytes.
      match split? (Bytes.toNat count) rest with
      | none => .error .endOfText
      | some (body, rest) =>
        match Utf8.decode body with
        | .error fault => .error (.badText fault)
        | .ok value => .ok (value, rest)

/-- A value that may be missing, as a byte that is zero, or one before the value. -/
def optional {α : Type} (item : Layout α) : Layout (Option α) where
  put
    | none => [0]
    | some value => 1 :: item.put value
  get
    | [] => .error .endOfInput
    | b :: rest =>
      -- The value follows its mark at once.
      if b = 0 then .ok (none, rest)
      else if b = 1 then (item.get rest).map fun (value, rest) => (some value, rest)
      else .error (.badOption b)

/-- Reads `count` values in a row. -/
def getMany {α : Type} (item : Layout α) : (count : Nat) → Bytes → Except Fault (List α × Bytes)
  -- A count past the end of the input fails at the first value that is cut off.
  | 0, bytes => .ok ([], bytes)
  | count + 1, bytes =>
    match item.get bytes with
    | .error fault => .error fault
    | .ok (value, rest) =>
      match getMany item count rest with
      | .error fault => .error fault
      | .ok (values, rest) => .ok (value :: values, rest)

/-- A sequence, as its length and its values. -/
def list {α : Type} (item : Layout α) : Layout (List α) where
  put values := Bytes.ofNat 8 values.length ++ values.flatMap item.put
  get bytes :=
    -- Values have no marks between them.
    match split? 8 bytes with
    | none => .error .endOfInput
    | some (count, rest) => getMany item (Bytes.toNat count) rest

/-- Two values, one after the other. -/
def pair {α β : Type} (first : Layout α) (second : Layout β) : Layout (α × β) where
  put value := first.put value.1 ++ second.put value.2
  get bytes :=
    -- The second value starts wherever the first one ends.
    match first.get bytes with
    | .error fault => .error fault
    | .ok (a, rest) => (second.get rest).map fun (b, rest) => ((a, b), rest)

/-- Nothing at all, in no bytes. -/
def empty : Layout Unit where
  put _ := []
  get bytes := .ok ((), bytes)

/-- One of some alternatives, as its index in four bytes. -/
def choice {α : Type} [BEq α] (options : List α) : Layout α where
  put value := Bytes.ofNat 4 (options.idxOf value)
  get bytes :=
    -- The names of the alternatives do not travel.
    match (natural 4).get bytes with
    | .error fault => .error fault
    | .ok (index, rest) =>
      match options[index]? with
      | some value => .ok (value, rest)
      | none => .error (.badChoice index options.length)

end Layout

end Binary

end SentinelRounds
