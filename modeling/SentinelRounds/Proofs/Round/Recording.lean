import Mathlib.Data.List.Induction
import SentinelRounds.Proofs.Round.Outcomes

/-! Chunks received one after the other, over a depot that records what it is asked to merge. -/

namespace SentinelRounds

/-- A depot, and all that it has been asked to merge so far: every item, and for which peer. -/
structure Recorded (δ ι : Type) where
  depot : δ
  merges : List (Identity × ι) := []

namespace Recorded

variable {δ ι : Type}

instance [Depot δ ι] : Depot (Recorded δ ι) ι where
  contains recorded := Depot.contains recorded.depot
  register recorded identity :=
    let (verdict, depot) := Depot.register recorded.depot identity
    (verdict, { recorded with depot })
  locate recorded := Depot.locate recorded.depot
  merge recorded identity item :=
    let (result, depot) := Depot.merge recorded.depot identity item
    (result, { depot, merges := recorded.merges ++ [(identity, item)] })

end Recorded

namespace Round

variable {δ ι : Type} [Transferable ι] [Depot δ ι]

/-- Receives some chunks, one after the other. -/
def receiveChunks (role : Role) (round : Round ι) (depot : δ) (chunks : List Inbound) :
    Round ι × δ :=
  chunks.foldl (fun state chunk => state.1.receiveMessage state.2 role chunk.frame chunk.kind)
    (round, depot)

/-- One more chunk is received after the others. -/
theorem receiveChunks_concat (role : Role) (round : Round ι) (depot : δ) (chunks : List Inbound)
    (chunk : Inbound) :
    round.receiveChunks role depot (chunks ++ [chunk]) =
      (round.receiveChunks role depot chunks).1.receiveMessage
        (round.receiveChunks role depot chunks).2 role chunk.frame chunk.kind := by
  -- The fold takes the chunks from the front.
  rw [receiveChunks, List.foldl_append]
  rfl

/-- A depot that records what it merges receives a chunk like the depot itself. -/
theorem receiveMessage_recorded (role : Role) (round : Round ι) (recorded : Recorded δ ι)
    (frame : Bytes) (kind : Markup) :
    round.receiveMessage recorded.depot role frame kind =
      ((round.receiveMessage recorded role frame kind).1,
        (round.receiveMessage recorded role frame kind).2.depot) := by
  -- The two depots merge alike, whatever is recorded.
  let same (recorded : Recorded δ ι) (depot : δ) : Prop := depot = recorded.depot
  have initially : same recorded recorded.depot := rfl
  obtain ⟨after, kept⟩ := round.receiveMessage_alike initially role frame kind
    fun _ _ _ _ => ⟨rfl, rfl⟩
  exact Prod.ext after kept

/-- So it does with any number of chunks. -/
theorem receiveChunks_recorded (role : Role) (round : Round ι) (recorded : Recorded δ ι)
    (chunks : List Inbound) :
    round.receiveChunks role recorded.depot chunks =
      ((round.receiveChunks role recorded chunks).1,
        (round.receiveChunks role recorded chunks).2.depot) := by
  -- The chunks come one after the other.
  induction chunks using List.reverseRecOn with
  | nil => rfl
  | append_singleton chunks chunk ih =>
    rw [receiveChunks_concat, receiveChunks_concat, ih]
    exact receiveMessage_recorded role _ _ _ _

end Round

end SentinelRounds
