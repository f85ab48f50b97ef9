import SentinelRounds.Net.Plan

/-! The service of one link: rounds are answered until one of them closes the link or fails. -/

namespace SentinelRounds

/-- Where the service of one link stands. -/
inductive Service
  /-- About to report the link as accepted. -/
  | greet
  /-- On the way to the header of the next request. -/
  | request (plan : Plan)
  /-- About to see whether the response may overtake the request. -/
  | mode
  /-- In the message of the request and in the response, each on its own way. -/
  | halves (incoming outgoing : Plan)
  /-- About to report the round. -/
  | report
  /-- About to take the link out of the registry. -/
  | unregister
  | shut (shutdown : Shutdown)
  /-- About to report the link as closed. -/
  | farewell
  /-- About to leave the table of services. -/
  | retire
  /-- Over without having left anything, because its round has not returned. -/
  | fallen
  deriving DecidableEq, Repr

namespace Service

/-- Where a service goes once its two halves stand as they do. -/
def ofHalves (incoming outgoing : Plan) : Service :=
  -- The halves join: neither may go on to the next round alone.
  if incoming = [] ∧ outgoing = [] then .report else .halves incoming outgoing

/-- What the step ahead asks of the socket, given which half of a round takes it. -/
def demand : Service → (half : Transit) → Demand
  -- Before and after its halves, a service waits for one thing at a time.
  | .request plan, _ => plan.demand
  | .halves incoming _, .receive => incoming.demand
  | .halves _ outgoing, .send => outgoing.demand
  | .shut shutdown, _ => shutdown.demand
  | _, _ => .nothing

end Service

/-- What a server reports of a link. -/
inductive Report
  | accepted (id : Nat)
  | round (id rounds chunksIn chunksOut : Nat) (notice : Option String)
  | closed (id : Nat)
  deriving DecidableEq, Repr

namespace Report

/-- The link that a report is about. -/
def id : Report → Nat
  | .accepted id | .round id _ _ _ _ | .closed id => id

/-- The line that a report is shown as, given the address of the other end. -/
def text (peer : String) : Report → String
  | .accepted id => s!"Accepted {linkName id} from {peer}"
  | .round id rounds chunksIn chunksOut notice =>
    let line := s!"Round {rounds} on {linkName id}: {chunksIn} chunks in, {chunksOut} chunks out"
    match notice with
    | some notice => line ++ ": " ++ notice
    | none => line
  | .closed id => "Closed " ++ linkName id

end Report

end SentinelRounds
