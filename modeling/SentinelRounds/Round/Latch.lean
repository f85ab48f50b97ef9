/-! A latch that tasks sleep on: it stays set until it is reset, and setting it wakes every sleeper. -/

namespace SentinelRounds

/-- A task that waits for a latch, as far as it has come. -/
inductive Waiter
  /-- Made, but never polled. -/
  | fresh
  /-- Within a poll: registered, and about to look at the latch. -/
  | looking (called : Bool)
  /-- Within a poll: has seen the latch clear, and is about to fall asleep. -/
  | dozing (called : Bool)
  /-- Asleep since its last poll. -/
  | asleep
  /-- Woken since its last poll. -/
  | woken
  /-- Finished. -/
  | gone
  deriving DecidableEq, Repr

namespace Waiter

/-- What setting a latch does to a waiter. -/
def wake : Waiter → Waiter
  -- Whoever is registered is woken, even within a poll.
  | .looking _ => .looking true
  | .dozing _ => .dozing true
  | .asleep => .woken
  | waiter => waiter

/-- One step of a poll, given whether the latch is set. -/
def advance (isSet : Bool) : Waiter → Waiter
  -- A waiter registers before it looks, so that nobody sets the latch in between unnoticed.
  | .fresh | .woken => .looking false
  | .looking called => if isSet then .gone else .dozing called
  -- Whoever has been woken in the meantime registers anew and looks again.
  | .dozing true => .looking false
  | .dozing false => .asleep
  -- A sleeper that nobody has woken does not look.
  | .asleep => .asleep
  | .gone => .gone

/-- Whether a poll of a waiter may begin: none is under way, and the wait is not over. -/
def isPending : Waiter → Bool
  | .fresh | .asleep | .woken => true
  | .looking _ | .dozing _ | .gone => false

end Waiter

/-- A latch and the tasks that wait for it, in the order in which they were made. -/
structure Latch where
  isSet : Bool := false
  waiters : List Waiter := []
  deriving DecidableEq, Repr, Inhabited

namespace Latch

/-- Sets a latch. -/
def set (latch : Latch) : Latch :=
  { isSet := true, waiters := latch.waiters.map Waiter.wake }

/-- Resets a latch; whoever has been woken stays so until its next poll. -/
def reset (latch : Latch) : Latch := { latch with isSet := false }

/-- Adds a waiter. -/
def wait (latch : Latch) : Latch := { latch with waiters := latch.waiters ++ [.fresh] }

/-- One step of a poll of a waiter, by its number; others may act before the next step. -/
def advance (latch : Latch) (index : Nat) : Latch :=
  { latch with waiters := latch.waiters.modify index (Waiter.advance latch.isSet) }

/-- What a poll tells. -/
structure Poll where
  /-- Whether the waiter had been woken since its last poll. -/
  woken : Bool
  /-- Whether the wait is over. -/
  ready : Bool
  deriving DecidableEq, Repr

/-- Polls a waiter by its number, if a poll may begin, with nobody acting in between. -/
def poll (latch : Latch) (index : Nat) : Option Poll × Latch :=
  match latch.waiters[index]?.filter Waiter.isPending with
  | none => (none, latch)
  | some waiter =>
    -- Undisturbed, a waiter registers, looks, and falls asleep at most once each.
    let polled := ((latch.advance index).advance index).advance index
    (some ⟨waiter = .woken, polled.waiters[index]? = some .gone⟩, polled)

end Latch

end SentinelRounds
