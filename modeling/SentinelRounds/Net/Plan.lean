import SentinelRounds.Net.Call

/-! What one party has yet to do on a link, as a list that is worked off from the front. -/

namespace SentinelRounds

/-- One task of a plan. -/
inductive Task
  /-- Clears what the last round has left. -/
  | reset
  /-- Counts the round that begins. -/
  | begin
  /-- Waits until a signal is set. -/
  | await (signal : Signal)
  /-- Skips the next task unless a message is due. -/
  | ifDue (transit : Transit)
  /-- Looks the link up by its number and calls it for whatever phase is due. -/
  | find (transit : Transit)
  | call (call : Call)
  deriving DecidableEq, Repr

/-- Tasks to be done in order. -/
abbrev Plan := List Task

/-- How a plan goes on after a step. -/
inductive Progress
  | going (plan : Plan)
  | failed (fault : LinkFault)
  /-- The number of the link is not registered any more. -/
  | lost
  deriving DecidableEq, Repr

namespace Plan

variable {δ ι : Type}

/-- A server's way to the header of a request. -/
def greeting : Plan := [.reset, .begin, .find .receive]

/-- A server's way through the message of a request, if there is one. -/
def request : Plan := [.ifDue .receive, .find .receive]

/--
A server's way through the response; unless it may overtake the request, the request has to be
complete and its hooks have to have run.
-/
def response (pipelined : Bool) : Plan :=
  (if pipelined then [] else [.await .chunksReceived, .await .messageReceived]) ++
    [.find .send, .ifDue .send, .find .send]

/-- A client's way through a round. -/
def round : Plan :=
  [.reset, .begin, .call (.enter .send .header), .ifDue .send, .call (.enter .send .message),
    .call (.enter .receive .header), .ifDue .receive, .call (.enter .receive .message)]

/-- What the step ahead asks of the socket. -/
def demand : Plan → Demand
  | .call call :: _ => call.demand
  | _ => .nothing

/-- How a plan goes on whose first task is a call. -/
def resume (call : Call) (rest : Plan) : Progress :=
  -- A call that has failed takes the whole plan down with it.
  match call with
  | .succeeded => .going rest
  | .failed fault => .failed fault
  | call => .going (.call call :: rest)

/--
One step of a plan, given whether the link is registered and what the socket answers; nothing if the
first task has to wait, or no task is left.
-/
def step [Transferable ι] [Reversible ι] [Depot δ ι] (hooks : Hooks ι) (registered : Bool)
    (reply : Reply) (plan : Plan) (link : Link ι) (site : Site δ) :
    Option (Progress × Link ι × Site δ) :=
  -- Only a call touches the socket; every other task is done at once, or waits.
  match plan with
  | [] => none
  | .reset :: rest => some (.going rest, link.reset, site)
  | .begin :: rest => some (.going rest, link.begin, site)
  | .await signal :: rest =>
    if link.round.context.signals.isSet signal then some (.going rest, link, site) else none
  | .ifDue transit :: rest =>
    some (.going (if link.isDue transit then rest else rest.drop 1), link, site)
  | .find transit :: rest =>
    some (if registered then .going (.call (.choose transit) :: rest) else .lost, link, site)
  | .call call :: rest =>
    (call.step hooks reply link site).map fun (call, link, site) =>
      (resume call rest, link, site)

end Plan

end SentinelRounds
