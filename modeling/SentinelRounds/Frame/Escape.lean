import SentinelRounds.Frame.Run

/-! Escaping, which keeps frame content free of anything a scanner could take for a terminator. -/

namespace SentinelRounds

namespace Escape

/-- The longest run of closing bytes that frame content may carry unescaped. -/
def limit (runLength : Nat) : Nat := max (runLength - 1) 1

/-- The largest size that `length` bytes of content can take once escaped. -/
def maxLength (length runLength : Nat) : Nat :=
  -- At most one escape per full limit of content, and one more at the end.
  length + length / limit runLength + 1

/-- Copies content, adding an escape byte after each run that reaches the limit. -/
def insert (limit : Nat) (run : Run) : Bytes → Bytes
  -- An inserted escape ends the run, so the count starts again after it.
  | [] => []
  | b :: rest =>
    if (run.push b).length = limit then b :: Markup.escape.byte :: insert limit .start rest
    else b :: insert limit (run.push b) rest

/-- Whether content ending in this byte needs one more escape before its terminator. -/
def guards (last : UInt8) : Bool :=
  -- A closing byte would join the terminator, and an escape would be taken for the guard.
  (Markup.closing? last).isSome || last == Markup.escape.byte

/-- The escape that follows content whose last byte needs one. -/
def guard (content : Bytes) : Bytes :=
  match content.getLast? with
  | some last => if guards last then [Markup.escape.byte] else []
  | none => []

/-- Content as it travels in a frame. -/
def encode (runLength : Nat) (content : Bytes) : Bytes :=
  -- The copied content never holds a full run, and the guard keeps its end from joining one.
  insert (limit runLength) .start content ++ guard content

/-- Drops the escapes from copied content, or names the offset at which one is missing. -/
def remove (limit : Nat) (offset : Nat) (run : Run) : Bytes → Except Nat Bytes
  -- After a run that reaches the limit, the next byte has to be the inserted escape.
  | [] => .ok []
  | b :: rest =>
    if (run.push b).length = limit then
      match rest with
      | [] => .error (offset + 1)
      | e :: rest =>
        if e = Markup.escape.byte then (remove limit (offset + 2) .start rest).map (b :: ·)
        else .error (offset + 1)
    else (remove limit (offset + 1) (run.push b) rest).map (b :: ·)

/-- Frame content without the escape that may guard its end. -/
def unguard (frame : Bytes) : Bytes :=
  -- A content that ends in an escape was guarded as well, so the last one is always the guard.
  if frame.getLast? = some Markup.escape.byte then frame.dropLast else frame

/-- The content of a received frame, or the offset at which an escape is missing. -/
def decode (runLength : Nat) (frame : Bytes) : Except Nat Bytes :=
  remove (limit runLength) 0 .start (unguard frame)

end Escape

end SentinelRounds
