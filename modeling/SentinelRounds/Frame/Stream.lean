import SentinelRounds.Frame.Scanner

/-! Cutting a byte stream into the frames it consists of. -/

namespace SentinelRounds

namespace Scanner

/-- A frame cut from the front of a stream, and where the rest of that stream begins. -/
structure Cut where
  kind : Markup
  /-- The frame as it travelled, without its terminator. -/
  frame : Bytes
  next : Nat
  deriving DecidableEq, Repr

/-- Cuts the first frame off a stream with a fresh forward scanner. -/
def cut (runLength : Nat) (stream : Bytes) : Option Cut :=
  ((ofRunLength runLength).scan stream).1.map fun found =>
    ⟨found.kind, stream.take found.frameLength, found.next⟩

/-- Cuts frames off a stream, at most `fuel` of them, and keeps what is left. -/
def cutAll (runLength : Nat) : (fuel : Nat) → Bytes → List Cut × Bytes
  -- Every cut removes at least one byte, so the length of the stream is fuel enough.
  | 0, stream => ([], stream)
  | fuel + 1, stream =>
    match cut runLength stream with
    | none => ([], stream)
    | some first =>
      let (others, rest) := cutAll runLength fuel (stream.drop first.next)
      (first :: others, rest)

/-- All frames of a stream, in order, and the bytes after the last terminator. -/
def frames (runLength : Nat) (stream : Bytes) : List Cut × Bytes :=
  cutAll runLength stream.length stream

end Scanner

end SentinelRounds
