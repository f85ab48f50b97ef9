import SentinelRounds.Round.Header

/-! What items and depots have to provide so that rounds can carry and store them. -/

namespace SentinelRounds

/-- An item that can travel in a round. -/
class Transferable (ι : Type) where
  /-- The announcement of the item when sent in batches of the given size. -/
  descriptor : ι → (batch : Nat) → Except RoundFault Descriptor
  /--
  The body bytes of the batch at an offset, and where the next one starts unless the body is
  exhausted; bytes written at exhaustion do not count.
  -/
  serialize : ι → (offset batch : Nat) → Bytes × Option Nat
  /-- Folds one received chunk into the item, which may change even if it refuses the chunk. -/
  absorb : ι → Bytes → Except RoundFault Unit × ι

/-- An item whose body can be turned around. -/
class Reversible (ι : Type) where
  /-- The item with its body back to front. -/
  reversed : ι → ι

/-- The answer to a peer that asks to be registered. -/
inductive Verdict
  | accepted (notice : String)
  | rejected (reason : String)
  deriving DecidableEq, Repr

/-- A store that incoming items are located in and merged into. -/
class Depot (δ : Type) (ι : outParam Type) where
  /-- Whether a peer has a place to merge into. -/
  contains : δ → Identity → Bool
  /-- Registers a peer that has none. -/
  register : δ → Identity → Verdict × δ
  /-- Finds or makes the item that an announced one is received into. -/
  locate : δ → Identity → Descriptor → Except RoundFault ι
  /-- Merges a fully received item into the peer's place. -/
  merge : δ → Identity → ι → Except RoundFault Unit × δ

namespace Depot

/-- Locates the items of an announcement in order, up to the first that cannot be located. -/
def locateAll {δ ι : Type} [Depot δ ι] (depot : δ) (identity : Identity) :
    List Descriptor → Except RoundFault (List ι)
  -- Items located before the fault are dropped, and the depot has not changed.
  | [] => .ok []
  | descriptor :: rest =>
    match locate depot identity descriptor with
    | .error fault => .error fault
    | .ok item =>
      match locateAll depot identity rest with
      | .error fault => .error fault
      | .ok items => .ok (item :: items)

end Depot

end SentinelRounds
