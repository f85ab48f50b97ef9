import SentinelRounds.Net.Plan

/-! Calls on a running server from outside. -/

namespace SentinelRounds

/-- Where a call from outside stands. -/
inductive Caller
  /-- About to take a link out of the registry. -/
  | remove (id : Nat)
  | shut (id : Nat) (shutdown : Shutdown)
  /-- Using a link beside its service. -/
  | using (id : Nat) (plan : Plan)
  /-- About to see whether there is anything to stop. -/
  | stop
  /-- About to ask the acceptor to leave. -/
  | ask
  /-- About to abort every service in the table. -/
  | abort
  /-- About to empty the registry. -/
  | clear
  /-- Shutting down the first of some links. -/
  | shutAll (shutdown : Shutdown) (ids : List Nat)
  | succeeded
  | failed (fault : ServerFault)
  deriving DecidableEq, Repr

namespace Caller

/-- The link that the step ahead uses, and what it asks of that link's socket. -/
def demand : Caller → Option (Nat × Demand)
  -- All other steps are about the tables of the server alone.
  | .shut id shutdown => some (id, shutdown.demand)
  | .using id plan => some (id, plan.demand)
  | .shutAll shutdown (id :: _) => some (id, shutdown.demand)
  | _ => none

end Caller

end SentinelRounds
