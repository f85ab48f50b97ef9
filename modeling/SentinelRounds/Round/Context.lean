import SentinelRounds.Round.Identity
import SentinelRounds.Round.Intake
import SentinelRounds.Round.Signals

/-! The state of one connection's rounds, apart from headers and messages. -/

namespace SentinelRounds

/-- How far the incoming message has come. -/
structure Receiving where
  /-- Whether a message is to be received. -/
  active : Bool := false
  /-- Index of the item being received. -/
  item : Nat := 0
  /-- Items still to be received. -/
  left : Nat := 0
  /-- Chunks consumed for the item being received. -/
  chunk : Nat := 0
  deriving DecidableEq, Repr, Inhabited

/-- How far the outgoing message has come. -/
structure Sending where
  /-- Whether a message is to be sent. -/
  active : Bool := false
  /-- Index of the item being sent. -/
  item : Nat := 0
  /-- Chunks produced for the item being sent. -/
  chunk : Nat := 0
  /-- Offset in the body at which its next chunk starts. -/
  offset : Nat := 0
  deriving DecidableEq, Repr, Inhabited

/-- The state of one connection's rounds. -/
structure Context where
  settings : Settings
  /-- Sent in every header. -/
  identity : Identity
  /-- Announced by the peer's last valid header. -/
  peer : Option Identity
  close : Bool
  denied : Bool
  synchronic : Bool
  /-- Faults seen in this round. -/
  errors : UInt32
  /-- The item that either direction touched last. -/
  itemIndex : Nat
  receiving : Receiving
  sending : Sending
  intake : Intake
  /-- Bytes ready to go out. -/
  output : Bytes
  signals : Signals
  deriving DecidableEq, Repr

namespace Context

/-- The state before the first round. -/
def initial (identity : Identity) (settings : Settings) : Context :=
  -- The first header that goes out asks for the configured mode.
  { settings, identity
    peer := none
    close := false
    denied := false
    synchronic := settings.synchronic
    errors := 0
    itemIndex := 0
    receiving := {}
    sending := {}
    intake := .ofSettings settings
    output := []
    signals := .clear }

/-- Places bytes in the free receive space of a phase. -/
def stage (context : Context) (phase : Phase) (bytes : Bytes) : Context :=
  { context with intake := context.intake.stage phase bytes }

/-- Counts staged bytes as received and looks for a terminator. -/
def read (context : Context) (phase : Phase) (received : Nat) :
    Except RoundFault (Option Markup) × Context :=
  let (found, intake) := context.intake.read phase received
  let context := { context with intake }
  -- The bytes of a frame that cannot be read are consumed all the same.
  match found with
  | .ok kind => (.ok kind, context)
  | .error offset => (.error (.codec (.frame (.missingEscape offset))), context)

/-- Takes the frame that the last successful read of a phase completed. -/
def takeFrame (context : Context) (phase : Phase) : Option Bytes × Context :=
  let (frame, intake) := context.intake.takeFrame phase
  (frame, { context with intake })

/-- Appends a terminated frame to the output and counts the bytes added. -/
def writeFrame (context : Context) (phase : Phase) (content : Bytes) (marker : Markup) :
    Except RoundFault Nat × Context :=
  -- A frame that cannot be written leaves the output as it was.
  match (context.settings.writer phase).write context.output content marker with
  | .ok (output, added) => (.ok added, { context with output })
  | .error fault => (.error (.codec (.frame fault)), context)

/-- Takes the bytes that are ready to go out. -/
def takeOutput (context : Context) : Bytes × Context :=
  -- What has been taken is never sent a second time.
  (context.output, { context with output := [] })

/-- Prepares for the next round: the mode, a denial, a closing, and unread bytes survive. -/
def reset (context : Context) : Context :=
  -- The peer survives too, until another valid header names one.
  { context with
    errors := 0
    itemIndex := 0
    receiving := {}
    sending := {}
    intake := context.intake.rewind
    output := []
    signals := .clear }

/-- Stops the round: no message phase in either direction any more. -/
def halt (context : Context) : Context :=
  -- The counters keep their values, so it can be seen how far the message came.
  { context with
    close := true
    receiving := { context.receiving with active := false }
    sending := { context.sending with active := false } }

/-- Sets one signal. -/
def raise (context : Context) (signal : Signal) : Context :=
  { context with signals := context.signals.set signal }

/-- Sets the signals a response may wait for. -/
def endMessage (context : Context) : Context :=
  { context with signals := context.signals.endMessage }

/-- Sets every signal. -/
def release (context : Context) : Context := { context with signals := .released }

end Context

end SentinelRounds
