import SentinelRounds.Net.Fault
import SentinelRounds.Round.Action

/-! One end of a connection: the round it carries, its state, and its counts. -/

namespace SentinelRounds

/-- The state of a link. -/
inductive LinkState
  /-- The socket is up and no round has started. -/
  | connecting
  | headerExchange
  | messageExchange
  /-- The socket is about to be shut down. -/
  | closing
  | closed
  deriving DecidableEq, Repr

namespace LinkState

/-- The name a state has in answers. -/
def name : LinkState → String
  | .connecting => "Connecting"
  | .headerExchange => "HeaderExchange"
  | .messageExchange => "MessageExchange"
  | .closing => "Closing"
  | .closed => "Closed"

/-- The state of a link in a phase. -/
def ofPhase : Phase → LinkState
  | .header => .headerExchange
  | .message => .messageExchange

/-- Whether the link is on its way out. -/
def isOver : LinkState → Bool
  | .closing | .closed => true
  | _ => false

end LinkState

/-- What a link has done so far. -/
structure Stats where
  rounds : Nat := 0
  headersSent : Nat := 0
  headersReceived : Nat := 0
  chunksSent : Nat := 0
  chunksReceived : Nat := 0
  bytesSent : Nat := 0
  bytesReceived : Nat := 0
  deriving DecidableEq, Repr, Inhabited

namespace Stats

/-- Counts a header or a chunk that has been received. -/
def received (stats : Stats) : Phase → Stats
  | .header => { stats with headersReceived := stats.headersReceived + 1 }
  | .message => { stats with chunksReceived := stats.chunksReceived + 1 }

/-- Counts a header or a chunk that has been sent. -/
def sent (stats : Stats) : Phase → Stats
  | .header => { stats with headersSent := stats.headersSent + 1 }
  | .message => { stats with chunksSent := stats.chunksSent + 1 }

end Stats

/-- One end of a connection. -/
structure Link (ι : Type) where
  id : Nat
  role : Role
  /-- The socket that the link runs over. -/
  socket : Nat
  round : Round ι
  state : LinkState := .connecting
  stats : Stats := {}
  deriving DecidableEq, Repr

namespace Link

variable {ι : Type}

/-- The link of a fresh socket. -/
def opened (id : Nat) (role : Role) (socket : Nat) (identity : Identity) (settings : Settings) :
    Link ι :=
  { id, role, socket, round := .ofContext (.initial identity settings) }

/-- The link with a change made to its round. -/
def onRound (link : Link ι) (change : Round ι → Round ι) : Link ι :=
  { link with round := change link.round }

/-- The link with some changes made to its round in order. -/
def act [Reversible ι] (link : Link ι) (actions : List (Action ι)) : Link ι :=
  -- What the changes call outgoing depends on the role of the link.
  link.onRound (Action.applyAll actions link.role)

/-- The link with a change made to its round's context. -/
def onContext (link : Link ι) (change : Context → Context) : Link ι :=
  link.onRound fun round => round.onContext change

/-- Whether a message is due in a direction. -/
def isDue (link : Link ι) : Transit → Bool
  | .send => link.round.context.sending.active
  | .receive => link.round.context.receiving.active

/-- The phase that a direction is in. -/
def duePhase (link : Link ι) (transit : Transit) : Phase :=
  -- A direction is in its message once its header has announced some items.
  if link.isDue transit then .message else .header

/-- Clears what the last round has left. -/
def reset (link : Link ι) : Link ι := link.onRound fun round => round.reset link.role

/-- Counts a round that begins. -/
def begin (link : Link ι) : Link ι :=
  -- A round is counted when it begins, whether or not it comes to an end.
  { link with
    stats := { link.stats with rounds := link.stats.rounds + 1 }
    state := .headerExchange }

/-- Takes the bytes that are ready to go out. -/
def takeOutput (link : Link ι) : Bytes × Link ι :=
  let (bytes, context) := link.round.context.takeOutput
  (bytes, link.onContext fun _ => context)

end Link

end SentinelRounds
