import SentinelRounds.Frame.Run

/-! Locating terminators, the runs of closing bytes that end frames. -/

namespace SentinelRounds

/-- A terminator located in a buffer. -/
structure Terminator where
  kind : Markup
  /-- Bytes of frame content before the run. -/
  frameLength : Nat
  /-- First index after the run. -/
  next : Nat
  deriving DecidableEq, Repr

/-- Which way a scanner walks the buffer. -/
inductive Direction
  /-- From the last scanned position toward the end, resuming across reads. -/
  | forward
  /-- From the tail toward the start, for a terminator that ends the buffer. -/
  | backward
  deriving DecidableEq, Repr

/-- A terminator search and how far it has come. -/
structure Scanner where
  /-- Identical closing bytes that make a terminator. -/
  runLength : Nat
  direction : Direction
  /-- Bytes at the front of every buffer that are not searched. -/
  offset : Nat
  /-- Index up to which the buffer has been searched. -/
  cursor : Nat
  /-- The run the searched bytes end in. -/
  run : Run
  deriving DecidableEq, Repr

namespace Scanner

/-- The run length used where none is configured. -/
def defaultRunLength : Nat := 16

/-- A forward scanner at the start of a buffer; a run has at least one byte. -/
def ofRunLength (runLength : Nat) : Scanner :=
  -- No byte at all would be found everywhere, so it is taken as one.
  { runLength := max runLength 1, direction := .forward, offset := 0, cursor := 0, run := .start }

/-- The scanner with all progress forgotten, for a buffer whose contents were replaced. -/
def reset (scanner : Scanner) : Scanner :=
  -- What the scanner looks for stays as it is.
  { scanner with cursor := 0, run := .start }

/-- How a forward search over a piece of a buffer ends. -/
inductive Search
  /-- The piece is exhausted and ends in this run. -/
  | exhausted (run : Run)
  /-- A full run of this closing value ends just before this index. -/
  | found (kind : Markup) (next : Nat)
  deriving DecidableEq, Repr

/-- Searches a piece of a buffer that starts at `index`, given the run before it. -/
def seek (runLength : Nat) (run : Run) (index : Nat) : Bytes → Search
  -- A full run can only end at a closing byte, because every other byte clears the run.
  | [] => .exhausted run
  | b :: rest =>
    match Markup.closing? b with
    | none => seek runLength .start (index + 1) rest
    | some kind =>
      if (run.push b).length = runLength then .found kind (index + 1)
      else seek runLength (run.push b) (index + 1) rest

/-- Searches on from the last position; a hit starts the next search afresh. -/
def scanForward (scanner : Scanner) (buffer : Bytes) : Option Terminator × Scanner :=
  -- The offset only matters until the search has passed it.
  let first := max scanner.cursor scanner.offset
  match seek scanner.runLength scanner.run first (buffer.drop first) with
  | .exhausted run => (none, { scanner with cursor := buffer.length, run })
  | .found kind next => (some ⟨kind, next - scanner.runLength, next⟩, scanner.reset)

/-- The length of the run of `b` at the start of a byte string. -/
def leadingRun (b : UInt8) (bytes : Bytes) : Nat :=
  -- The search backward sees the end of the buffer first.
  (bytes.takeWhile (· == b)).length

/-- Tests whether the buffer ends in a terminator, which takes in the whole run at its end. -/
def scanBackward (scanner : Scanner) (buffer : Bytes) : Option Terminator × Scanner :=
  -- The offset is cut off the end, and a tail without a closing byte leaves no trace.
  let stop := buffer.length - scanner.offset
  let tail := (buffer.take stop).reverse
  match tail.head? with
  | none => (none, scanner)
  | some last =>
    match Markup.closing? last with
    | none => (none, scanner)
    | some kind =>
      let run := leadingRun last tail
      let scanner := { scanner with cursor := stop }
      if run < scanner.runLength then (none, scanner)
      else (some ⟨kind, stop - run, stop⟩, scanner)

/-- Searches a buffer that holds every byte received for the current frame. -/
def scan (scanner : Scanner) (buffer : Bytes) : Option Terminator × Scanner :=
  -- Only a search forward can be resumed when more bytes arrive.
  match scanner.direction with
  | .forward => scanner.scanForward buffer
  | .backward => scanner.scanBackward buffer

end Scanner

end SentinelRounds
