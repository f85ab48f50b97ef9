/-! The wait signals of one connection, each either set or clear. -/

namespace SentinelRounds

/-- One of the five signals. -/
inductive Signal
  | headerReceived
  | headerSent
  | messageReceived
  | messageSent
  /-- Every announced chunk has arrived. -/
  | chunksReceived
  deriving DecidableEq, Repr

/-- The name a signal has in steps and answers. -/
def Signal.name : Signal → String
  | .headerReceived => "header_received"
  | .headerSent => "header_sent"
  | .messageReceived => "message_received"
  | .messageSent => "message_sent"
  | .chunksReceived => "chunks_received"

/-- Every signal, in the order in which they are shown. -/
def Signal.all : List Signal :=
  [.headerReceived, .headerSent, .messageReceived, .messageSent, .chunksReceived]

/-- Which signals are set. -/
structure Signals where
  headerReceived : Bool := false
  headerSent : Bool := false
  messageReceived : Bool := false
  messageSent : Bool := false
  chunksReceived : Bool := false
  deriving DecidableEq, Repr, Inhabited

namespace Signals

/-- No signal set, as at the start of a round. -/
def clear : Signals := {}

/-- Every signal set, so that nobody stays blocked on a failed connection. -/
def released : Signals := ⟨true, true, true, true, true⟩

/-- Whether a signal is set. -/
def isSet (signals : Signals) : Signal → Bool
  | .headerReceived => signals.headerReceived
  | .headerSent => signals.headerSent
  | .messageReceived => signals.messageReceived
  | .messageSent => signals.messageSent
  | .chunksReceived => signals.chunksReceived

/-- Sets one signal, which stays set until all are cleared. -/
def set (signals : Signals) : Signal → Signals
  | .headerReceived => { signals with headerReceived := true }
  | .headerSent => { signals with headerSent := true }
  | .messageReceived => { signals with messageReceived := true }
  | .messageSent => { signals with messageSent := true }
  | .chunksReceived => { signals with chunksReceived := true }

/-- Sets the two signals a response may wait for, because no more of the request will come. -/
def endMessage (signals : Signals) : Signals :=
  -- Nothing clears single signals, so both stay set for the rest of the round.
  (signals.set .messageReceived).set .chunksReceived

end Signals

end SentinelRounds
