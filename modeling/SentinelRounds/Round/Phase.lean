/-! The two sides of a round, its two phases, and the two directions of a phase. -/

namespace SentinelRounds

/-- Which side of a round an end plays. -/
inductive Role
  /-- Sends the request and honours the verdict on it. -/
  | client
  /-- Answers requests. -/
  | server
  deriving DecidableEq, Repr

/-- The name a role has in answers. -/
def Role.name : Role → String
  | .client => "Client"
  | .server => "Server"

/-- The role of the other end. -/
def Role.other : Role → Role
  | .client => .server
  | .server => .client

/-- A phase of one direction of a round. -/
inductive Phase
  /-- The announcement of the items. -/
  | header
  /-- The items' chunks. -/
  | message
  deriving DecidableEq, Repr

/-- The name a phase has in messages. -/
def Phase.name : Phase → String
  | .header => "Header"
  | .message => "Message"

/-- Which way a phase moves frames. -/
inductive Transit
  | send
  | receive
  deriving DecidableEq, Repr

end SentinelRounds
