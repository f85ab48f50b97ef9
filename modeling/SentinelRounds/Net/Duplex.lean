import SentinelRounds.Net.Call

/-! A socket pair in memory: bytes arrive in order and at once, an end of stream is seen after the
bytes before it, and what is sent to an end that has gone is lost without a fault. -/

namespace SentinelRounds

/-- One direction: the bytes not yet read, and whether no more will be sent. -/
structure Stream where
  bytes : Bytes := []
  ended : Bool := false
  deriving DecidableEq, Repr

/-- Two directions between the end that opened the pair and the end that accepted it. -/
structure Duplex where
  toServer : Stream := {}
  toClient : Stream := {}
  clientGone : Bool := false
  serverGone : Bool := false
  deriving DecidableEq, Repr

namespace Duplex

/-- The direction that leads to an end. -/
def inbound (pair : Duplex) : Role → Stream
  | .client => pair.toClient
  | .server => pair.toServer

/-- The direction that leads away from an end. -/
def outbound (pair : Duplex) : Role → Stream
  | .client => pair.toServer
  | .server => pair.toClient

/-- The pair with the direction that leads to an end replaced. -/
def setInbound (pair : Duplex) : Role → Stream → Duplex
  | .client, toClient => { pair with toClient }
  | .server, toServer => { pair with toServer }

/-- The pair with the direction that leads away from an end replaced. -/
def setOutbound (pair : Duplex) : Role → Stream → Duplex
  | .client, toServer => { pair with toServer }
  | .server, toClient => { pair with toClient }

/-- Whether the other end has gone. -/
def isDeserted (pair : Duplex) : Role → Bool
  | .client => pair.serverGone
  | .server => pair.clientGone

/-- Whether nothing will ever arrive any more at an end. -/
def isDrained (pair : Duplex) (role : Role) : Bool :=
  -- An end that has gone counts as one that has ended its sending.
  (pair.inbound role).bytes.isEmpty && ((pair.inbound role).ended || pair.isDeserted role)

/-- Ends what an end sends. -/
def finish (pair : Duplex) (role : Role) : Duplex :=
  pair.setOutbound role { pair.outbound role with ended := true }

/-- Takes an end away. -/
def leave (pair : Duplex) (role : Role) : Duplex :=
  -- Bytes on their way to the other end still arrive there.
  match role with
  | .client => { pair.finish .client with clientGone := true }
  | .server => { pair.finish .server with serverGone := true }

/-- Sends bytes from an end; only an end that has not ended its sending can send any. -/
def send (pair : Duplex) (role : Role) (bytes : Bytes) : Option Duplex :=
  -- Whoever sends nothing cannot fail, not even after the end of the sending.
  let stream := pair.outbound role
  if bytes = [] then some pair
  else if stream.ended then none
  else if pair.isDeserted role then some pair
  else some (pair.setOutbound role { stream with bytes := stream.bytes ++ bytes })

/-- Answers a demand at an end. -/
def answer (pair : Duplex) (role : Role) : Demand → Reply × Duplex
  | .nothing => (.pending, pair)
  | .bytes limit =>
    -- The bytes before the end of a stream come first.
    let stream := pair.inbound role
    if pair.isDrained role then (.ended, pair)
    else if stream.bytes.isEmpty then (.pending, pair)
    else
      (.bytes (stream.bytes.take limit),
        pair.setInbound role { stream with bytes := stream.bytes.drop limit })
  | .write bytes =>
    match pair.send role bytes with
    | some pair => (.done, pair)
    | none => (.failed, pair)
  | .finish => (.done, pair.finish role)

/-- Takes exactly so many bytes at an end, if they have arrived. -/
def readExactly (pair : Duplex) (role : Role) (count : Nat) : Option (Bytes × Duplex) :=
  -- Nothing is taken unless all of it is there.
  let stream := pair.inbound role
  if stream.bytes.length < count then none
  else
    some (stream.bytes.take count,
      pair.setInbound role { stream with bytes := stream.bytes.drop count })

end Duplex

namespace Link

/--
Whether the other end of a link may still send: neither has the link failed or been shut down, nor
has the stream been seen to end.
-/
def isConnected {ι : Type} (link : Link ι) (pair : Duplex) : Bool :=
  !link.state.isOver && !pair.isDrained link.role

end Link

namespace Call

variable {δ ι : Type}

/-- Runs a call over a socket pair until it has to wait, or is over. -/
def run [Transferable ι] [Reversible ι] [Depot δ ι] (hooks : Hooks ι) : (fuel : Nat) → Call →
    Link ι → Site δ → Duplex → Call × Link ι × Site δ × Duplex
  -- A call that waits is left as it was, and so is the socket.
  | 0, call, link, site, pair => (call, link, site, pair)
  | fuel + 1, call, link, site, pair =>
    let (reply, answered) := pair.answer link.role call.demand
    match call.step hooks reply link site with
    | none => (call, link, site, pair)
    | some (call, link, site) => run hooks fuel call link site answered

/-- More steps than any call takes before it has to wait. -/
def patience : Nat := Nat.pow 2 62

end Call

end SentinelRounds
