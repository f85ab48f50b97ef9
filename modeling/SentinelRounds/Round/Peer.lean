import SentinelRounds.Round.Action
import SentinelRounds.Round.Send

/-! One end of a round and the bytes on their way from it, without sockets. -/

namespace SentinelRounds

/-- One end: its round, its depot, and what it has sent that the other end has not read. -/
structure Peer (δ ι : Type) where
  role : Role
  round : Round ι
  depot : δ
  wire : Bytes := []
  deriving DecidableEq, Repr

/-- What sending one phase comes to: the kind of run that closed the frame, and the new bytes. -/
structure Sent where
  result : Except RoundFault Markup
  bytes : Bytes
  deriving Repr

/-- What an attempt to receive one phase comes to. -/
inductive Received
  /-- No terminator has arrived. -/
  | nothing
  /-- The frame that has arrived cannot be read. -/
  | unreadable (fault : RoundFault)
  | frame (inbound : Round.Inbound) (result : Except RoundFault Markup)
  deriving Repr

/-- An attempt to receive, and how many bytes it moved. -/
structure Receipt where
  taken : Nat
  received : Received
  deriving Repr

namespace Peer

variable {δ ι : Type}

/-- An end before its first round. -/
def initial (role : Role) (identity : Identity) (settings : Settings) (depot : δ) : Peer δ ι :=
  { role, round := .ofContext (.initial identity settings), depot }

/-- The end with some changes made to its round in order. -/
def act [Reversible ι] (peer : Peer δ ι) (actions : List (Action ι)) : Peer δ ι :=
  { peer with round := Action.applyAll actions peer.role peer.round }

/-- The end prepared for its next round. -/
def reset (peer : Peer δ ι) : Peer δ ι := { peer with round := peer.round.reset peer.role }

/-- Runs one transition of the round. -/
def dispatch [Transferable ι] [Depot δ ι] (peer : Peer δ ι) (transit : Transit) (phase : Phase)
    (inbound : Option Round.Inbound) : Except RoundFault Markup × Peer δ ι :=
  let (result, round, depot) := peer.round.dispatch peer.depot peer.role transit phase inbound
  (result, { peer with round, depot })

/-- Sends one phase; what is ready to go out goes out even after a fault. -/
def send [Transferable ι] [Depot δ ι] (peer : Peer δ ι) (phase : Phase) : Sent × Peer δ ι :=
  let (result, peer) := peer.dispatch .send phase none
  let (bytes, context) := peer.round.context.takeOutput
  (⟨result, bytes⟩,
    { peer with round := { peer.round with context }, wire := peer.wire ++ bytes })

/-- Sends chunks while a message is to be sent, up to a fault and to a given number. -/
def sendAll [Transferable ι] [Depot δ ι] (peer : Peer δ ι) : (limit : Nat) →
    List Sent × Peer δ ι
  | 0 => ([], peer)
  | limit + 1 =>
    if peer.round.context.sending.active then
      match peer.send .message with
      | (⟨.error fault, bytes⟩, peer) => ([⟨.error fault, bytes⟩], peer)
      | (⟨.ok kind, bytes⟩, peer) =>
        let (rest, peer) := peer.sendAll limit
        (⟨.ok kind, bytes⟩ :: rest, peer)
    else ([], peer)

/-- Handles what a search for a terminator has found. -/
def settle [Transferable ι] [Depot δ ι] (peer : Peer δ ι) (phase : Phase)
    (found : Except RoundFault (Option Markup)) : Received × Peer δ ι :=
  -- The found frame is taken at once, and its content handed to the round.
  match found with
  | .error fault => (.unreadable fault, peer)
  | .ok none => (.nothing, peer)
  | .ok (some kind) =>
    let (frame, context) := peer.round.context.takeFrame phase
    let inbound : Round.Inbound := ⟨frame.getD [], kind⟩
    let peer := { peer with round := { peer.round with context } }
    let (result, peer) := peer.dispatch .receive phase (some inbound)
    (.frame inbound result, peer)

/--
Receives one phase from a wire: only if what has been received holds no frame, more bytes are moved,
as many as fit and at most a given number.

Returns what is left of the wire.
-/
def receive [Transferable ι] [Depot δ ι] (peer : Peer δ ι) (phase : Phase) (limit : Nat)
    (wire : Bytes) : Receipt × Peer δ ι × Bytes :=
  -- Reading no bytes first finds a frame that arrived together with an earlier one.
  match peer.round.context.read phase 0 with
  | (.ok none, context) =>
    let moved := wire.take (min limit (context.intake.spare phase))
    let (found, context) := (context.stage phase moved).read phase moved.length
    let (received, peer) := { peer with round := { peer.round with context } }.settle phase found
    (⟨moved.length, received⟩, peer, wire.drop moved.length)
  | (found, context) =>
    let (received, peer) := { peer with round := { peer.round with context } }.settle phase found
    (⟨0, received⟩, peer, wire)

/--
Receives chunks while a message is to be received, until no frame comes of all there is, and up to a
given number of attempts.
-/
def receiveAll [Transferable ι] [Depot δ ι] (peer : Peer δ ι) (limit : Nat) (wire : Bytes) :
    (attempts : Nat) → List Receipt × Peer δ ι × Bytes
  -- Bytes that moved may leave room for more, so such an attempt is not the last.
  | 0 => ([], peer, wire)
  | attempts + 1 =>
    if peer.round.context.receiving.active then
      match peer.receive .message limit wire with
      | (⟨0, .nothing⟩, peer, wire) => ([⟨0, .nothing⟩], peer, wire)
      | (⟨taken, .unreadable fault⟩, peer, wire) => ([⟨taken, .unreadable fault⟩], peer, wire)
      | (receipt, peer, wire) =>
        let (rest, peer, wire) := peer.receiveAll limit wire attempts
        (receipt :: rest, peer, wire)
    else ([], peer, wire)

end Peer

/-- Two ends whose wires lead to each other. -/
structure Session (δ ι : Type) where
  client : Peer δ ι
  server : Peer δ ι
  deriving DecidableEq, Repr

namespace Session

variable {δ ι : Type}

/-- The most chunks that one request to send everything sends. -/
def sendLimit : Nat := 200

/-- The most attempts that one request to receive everything makes. -/
def receiveLimit : Nat := 400

/-- One end. -/
def peer (session : Session δ ι) : Role → Peer δ ι
  | .client => session.client
  | .server => session.server

/-- The session with one end replaced. -/
def setPeer (session : Session δ ι) : Role → Peer δ ι → Session δ ι
  | .client, client => { session with client }
  | .server, server => { session with server }

/-- The wire that leads to an end. -/
def wireTo (session : Session δ ι) : Role → Bytes
  | .client => session.server.wire
  | .server => session.client.wire

/-- The session with the wire that leads to an end replaced. -/
def setWireTo (session : Session δ ι) (role : Role) (wire : Bytes) : Session δ ι :=
  match role with
  | .client => { session with server := { session.server with wire } }
  | .server => { session with client := { session.client with wire } }

/-- Receives one phase at an end. -/
def receive [Transferable ι] [Depot δ ι] (session : Session δ ι) (role : Role) (phase : Phase)
    (limit : Nat) : Receipt × Session δ ι :=
  let (receipt, peer, wire) := (session.peer role).receive phase limit (session.wireTo role)
  (receipt, (session.setPeer role peer).setWireTo role wire)

/-- Receives chunks at an end while it has a message to receive. -/
def receiveAll [Transferable ι] [Depot δ ι] (session : Session δ ι) (role : Role)
    (limit : Nat) : List Receipt × Session δ ι :=
  let (receipts, peer, wire) :=
    (session.peer role).receiveAll limit (session.wireTo role) receiveLimit
  (receipts, (session.setPeer role peer).setWireTo role wire)

end Session

end SentinelRounds
