import SentinelRounds.Frame.Markup

/-! The run of identical closing bytes at the end of a byte stream. -/

namespace SentinelRounds

/-- The closing byte a stream ends in and how often it stands there in a row. -/
structure Run where
  byte : UInt8
  length : Nat
  deriving DecidableEq, Repr

namespace Run

/-- The run of a stream that does not end in a closing byte. -/
def start : Run := ⟨0, 0⟩

/-- The run after one more byte of the stream. -/
def push (run : Run) (b : UInt8) : Run :=
  -- A byte that closes nothing ends every run; a closing byte extends its own run only.
  if (Markup.closing? b).isSome then
    if 0 < run.length ∧ run.byte = b then ⟨b, run.length + 1⟩ else ⟨b, 1⟩
  else start

/-- The run after all bytes of a further piece of the stream. -/
def pushAll (run : Run) (bytes : Bytes) : Run :=
  bytes.foldl push run

@[simp] theorem pushAll_nil (run : Run) : run.pushAll [] = run := rfl

@[simp] theorem pushAll_cons (run : Run) (b : UInt8) (rest : Bytes) :
    run.pushAll (b :: rest) = (run.push b).pushAll rest := rfl

/-- Pushing two pieces is pushing them one after the other. -/
theorem pushAll_append (run : Run) (first second : Bytes) :
    run.pushAll (first ++ second) = (run.pushAll first).pushAll second := by
  -- Folding over an appended list is folding twice.
  simp [pushAll, List.foldl_append]

/-- A byte that closes nothing leaves no run behind. -/
theorem push_of_not_closing {b : UInt8} (plain : Markup.closing? b = none) (run : Run) :
    run.push b = start := by
  -- The outer test fails.
  simp [push, plain]

/-- One byte lengthens the run by at most one. -/
theorem length_push_le (run : Run) (b : UInt8) : (run.push b).length ≤ run.length + 1 := by
  -- The three outcomes have lengths `run.length + 1`, one, and zero.
  unfold push
  split
  · split
    · exact Nat.le_refl _
    · exact Nat.succ_le_succ (Nat.zero_le _)
  · exact Nat.zero_le _

end Run

end SentinelRounds
