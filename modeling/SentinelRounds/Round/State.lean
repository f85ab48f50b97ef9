import SentinelRounds.Depot.Contract
import SentinelRounds.Round.Context
import SentinelRounds.Round.Message

/-! One round: a context, and the headers and messages of both directions. -/

namespace SentinelRounds

/-- A request and a response around one context. -/
structure Round (ι : Type) where
  -- Shared by both directions, unlike what follows.
  context : Context
  requestHeader : Header
  responseHeader : Header
  request : Message ι
  response : Message ι
  deriving DecidableEq, Repr

namespace Round

variable {ι : Type}

/-- A round before anything has been prepared, sent, or received. -/
def ofContext (context : Context) : Round ι :=
  { context, requestHeader := {}, responseHeader := {}, request := {}, response := {} }

/-- The round with a change made to its context. -/
def onContext (round : Round ι) (change : Context → Context) : Round ι :=
  { round with context := change round.context }

/-- The header that a role sends. -/
def outgoingHeader (round : Round ι) : Role → Header
  | .client => round.requestHeader
  | .server => round.responseHeader

/-- The header that a role receives. -/
def incomingHeader (round : Round ι) : Role → Header
  | .client => round.responseHeader
  | .server => round.requestHeader

/-- The message that a role sends. -/
def outgoing (round : Round ι) : Role → Message ι
  | .client => round.request
  | .server => round.response

/-- The message that a role receives. -/
def incoming (round : Round ι) : Role → Message ι
  | .client => round.response
  | .server => round.request

/-- Replaces the header that a role sends. -/
def setOutgoingHeader (round : Round ι) : Role → Header → Round ι
  | .client, requestHeader => { round with requestHeader }
  | .server, responseHeader => { round with responseHeader }

/-- Replaces the header that a role receives. -/
def setIncomingHeader (round : Round ι) : Role → Header → Round ι
  | .client, responseHeader => { round with responseHeader }
  | .server, requestHeader => { round with requestHeader }

/-- Replaces the message that a role sends. -/
def setOutgoing (round : Round ι) : Role → Message ι → Round ι
  | .client, request => { round with request }
  | .server, response => { round with response }

/-- Replaces the message that a role receives. -/
def setIncoming (round : Round ι) : Role → Message ι → Round ι
  | .client, response => { round with response }
  | .server, request => { round with request }

/-- Adds a line to the notice that a role sends. -/
def appendNotice (round : Round ι) (role : Role) (line : String) : Round ι :=
  round.setOutgoingHeader role ((round.outgoingHeader role).appendNotice line)

/-- Prepares for the next round: a client keeps its prepared request, a server keeps nothing. -/
def reset (round : Round ι) (role : Role) : Round ι :=
  -- The prepared request is the only message that was not part of the last round.
  { context := round.context.reset
    requestHeader := {}
    responseHeader := {}
    request := match role with
      | .client => round.request
      | .server => {}
    response := {} }

/-- Records a fault: the round is halted, and the peer will read of it. -/
def fault (round : Round ι) (role : Role) (fault : RoundFault) : Round ι :=
  -- Nobody may go on waiting for a message that will not come.
  let halted := round.onContext fun context =>
    let context := context.halt
    { context with errors := context.errors + 1 }
  (halted.appendNotice role fault.message).onContext Context.endMessage

/-- Records a denial: the round is halted, and the peer will read why. -/
def deny (round : Round ι) (role : Role) (reason : String) : Round ι :=
  -- A denial is no fault, so it is not counted among the errors.
  let halted := round.onContext fun context => { context with denied := true }.halt
  (halted.appendNotice role reason).onContext Context.endMessage

end Round

end SentinelRounds
