import SentinelRounds.Net.Address
import SentinelRounds.Net.Client
import SentinelRounds.Net.Duplex
import SentinelRounds.Net.Server

/-! A server and its clients on one machine, with sockets in memory: whenever somebody waits, all
others go on as far as they can. -/

namespace SentinelRounds

/-- One machine. -/
structure Loopback (δ ι : Type) where
  server : Server δ ι
  clients : Keyed Nat (Client δ ι) := .empty
  sockets : List Duplex := []
  /-- The sockets that nobody has accepted yet. -/
  backlog : List Nat := []
  /-- The port of the latest start; a start that asks for none takes the next one. -/
  port : Nat := 0

namespace Loopback

variable {δ ι : Type}

/-- Whether a host can be listened on. -/
def isLocal (host : String) : Bool :=
  -- There is no interface but the loopback here.
  match Address.ofHost? host with
  | some (.v4 127 0 0 1) | some (.v4 0 0 0 0) => true
  | _ => false

/-- The loopback address, at which every listener can be reached. -/
def host : String := "127.0.0.1"

/-- More steps than any schedule takes before everybody waits. -/
def patience : Nat := Nat.pow 2 62

/-- The pair of a socket. -/
def socket (machine : Loopback δ ι) (socket : Nat) : Duplex := machine.sockets.getD socket {}

/-- The machine with the pair of a socket replaced. -/
def setSocket (machine : Loopback δ ι) (socket : Nat) (pair : Duplex) : Loopback δ ι :=
  { machine with sockets := machine.sockets.set socket pair }

/-- Opens a socket to the server. -/
def dial (machine : Loopback δ ι) : Nat × Loopback δ ι :=
  -- Sockets are never removed, so their number is the next free one.
  let socket := machine.sockets.length
  (socket, { machine with
    sockets := machine.sockets ++ [{}], backlog := machine.backlog ++ [socket] })

/-- Takes away the sockets of links that nobody in the server needs any more. -/
def reap (machine : Loopback δ ι) : Loopback δ ι :=
  -- A socket goes when the last one who needs its link is gone.
  machine.server.links.entries.foldl (fun machine (id, link) =>
    if machine.server.holds id then machine
    else
      let machine := machine.setSocket link.socket ((machine.socket link.socket).leave .server)
      { machine with
        server := { machine.server with links := machine.server.links.erase id } }) machine

/-- Takes a step of the server that uses the socket of a link. -/
def use [Transferable ι] [Reversible ι] [Depot δ ι] (machine : Loopback δ ι) (id : Nat)
    (demand : Demand) (move : Reply → Move) : Option (Loopback δ ι) :=
  match machine.server.links.get? id with
  | none => (machine.server.step (move .pending)).map fun server => { machine with server }
  | some link =>
    let (reply, pair) := (machine.socket link.socket).answer .server demand
    (machine.server.step (move reply)).map fun server =>
      { machine with server }.setSocket link.socket pair

/-- A step of the acceptor, if it can take one. -/
def accept [Transferable ι] [Reversible ι] [Depot δ ι] (machine : Loopback δ ι) :
    Option (Loopback δ ι) :=
  -- Whoever has waited longest is accepted first.
  match machine.backlog with
  | socket :: backlog =>
    match machine.server.step (.accept socket true) with
    | some server => some { machine with server, backlog }
    | none => (machine.server.step .advance).map fun server => { machine with server }
  | [] => (machine.server.step .advance).map fun server => { machine with server }

/-- A step of the service of a link, of the request half if that can take one. -/
def serve [Transferable ι] [Reversible ι] [Depot δ ι] (machine : Loopback δ ι) (id : Nat) :
    Option (Loopback δ ι) := do
  -- The halves could move in any order; here the request goes first.
  let service ← machine.server.services.get? id
  (machine.use id (service.demand .receive) fun reply => .serve id ⟨.receive, reply⟩).or
    (machine.use id (service.demand .send) fun reply => .serve id ⟨.send, reply⟩)

/-- A step of somebody in the server; nothing if everybody waits. -/
def tick [Transferable ι] [Reversible ι] [Depot δ ι] (machine : Loopback δ ι) :
    Option (Loopback δ ι) :=
  -- Aborted services end before anybody else moves.
  let dropped := machine.server.doomed.findSome? fun id =>
    (machine.server.step (.drop id)).map fun server => { machine with server }
  (dropped.or (machine.accept.or (machine.server.services.keys.findSome? machine.serve))).map reap

/-- Lets everybody in the server go on until all of them wait. -/
def settle [Transferable ι] [Reversible ι] [Depot δ ι] (machine : Loopback δ ι) : (fuel : Nat) →
    Loopback δ ι
  | 0 => machine
  | fuel + 1 =>
    match machine.tick with
    | some machine => machine.settle fuel
    | none => machine

/-- Starts the server at the port that it asks for, or at one of its own. -/
def start (machine : Loopback δ ι) : Except ServerFault Unit × Loopback δ ι :=
  -- A port of its own is the one after the latest.
  match machine.server.start (isLocal machine.server.net.host) with
  | .error fault => (.error fault, machine)
  | .ok server =>
    let port := if server.net.port = 0 then machine.port + 1 else server.net.port
    (.ok (), { machine with server, port })

/-- Runs a call on the server from outside to its end, without pause. -/
def attend [Transferable ι] [Reversible ι] [Depot δ ι] (machine : Loopback δ ι) (index : Nat) :
    (fuel : Nat) → Caller × Loopback δ ι
  | 0 => (.failed .io, machine)
  | fuel + 1 =>
    match machine.server.callers[index]? with
    | none => (.failed .io, machine)
    | some caller =>
      -- Calls from outside take their steps without anybody in between.
      let moved := match caller.demand with
        | some (id, demand) => machine.use id demand fun reply => .attend index reply
        | none => (machine.server.step (.attend index .pending)).map fun server =>
          { machine with server }
      match moved with
      | some machine => machine.attend index fuel
      | none => (caller, machine)

/-- Makes a call on the server from outside, and lets everybody go on after it. -/
def call [Transferable ι] [Reversible ι] [Depot δ ι] (machine : Loopback δ ι) (caller : Caller) :
    Except ServerFault Unit × Loopback δ ι :=
  let index := machine.server.callers.length
  let server := { machine.server with callers := machine.server.callers ++ [caller] }
  let (caller, machine) := { machine with server }.attend index patience
  let result := match caller with
    | .failed fault => .error fault
    | _ => .ok ()
  (result, machine.settle patience)

/-- What becomes of an attempt to open a socket to a host and a port. -/
def opening (machine : Loopback δ ι) (net : NetSettings) : Opening × Loopback δ ι :=
  match Address.ofHost? net.host with
  | none => (.unresolved, machine)
  | some address =>
    if address = .v4 127 0 0 1 ∧ machine.server.running ∧ net.port = machine.port then
      let (socket, machine) := machine.dial
      (.opened socket true, machine)
    else (.refused, machine)

/-- Puts a client back. -/
def setClient (machine : Loopback δ ι) (index : Nat) (client : Client δ ι) : Loopback δ ι :=
  { machine with clients := machine.clients.insert index client }

/-- Connects a client, and lets the server take it in. -/
def connect [Transferable ι] [Reversible ι] [Depot δ ι] (machine : Loopback δ ι) (index : Nat)
    (client : Client δ ι) : Except ClientFault Unit × Loopback δ ι :=
  match client.checkIdle with
  | .error fault => (.error fault, machine.setClient index client)
  | .ok () =>
    let (opening, machine) := machine.opening client.net
    let (result, client) := client.connect opening
    (result, (machine.setClient index client).settle patience)

/--
Runs a plan on the link of a client; whenever it has to wait, the server goes on.

Nothing comes of a plan that waits when everybody does.
-/
def follow [Transferable ι] [Reversible ι] [Depot δ ι] (machine : Loopback δ ι) (index : Nat)
    (client : Client δ ι) (link : Link ι) : (fuel : Nat) → (idle : Bool) → Plan →
    Option (Except ClientFault Unit × Loopback δ ι)
  | 0, _, _ => none
  | _ + 1, _, [] => some (.ok (), machine.setClient index client)
  | fuel + 1, idle, plan =>
    let (reply, pair) := (machine.socket link.socket).answer .client plan.demand
    -- A client that waits lets the server go on once, and then looks again.
    match client.step plan reply with
    | some (progress, client) =>
      let machine := machine.setSocket link.socket pair
      match progress with
      | .going plan => machine.follow index client link fuel false plan
      | .failed fault => some (.error (.link fault), machine.setClient index client)
      | .lost => some (.error .notConnected, machine.setClient index client)
    | none =>
      if idle then none else (machine.settle patience).follow index client link fuel true plan

/-- Gives the link of a client up; its socket goes with it. -/
def close [Transferable ι] [Reversible ι] [Depot δ ι] (machine : Loopback δ ι) (index : Nat)
    (client : Client δ ι) : Option (Link ι) × Loopback δ ι :=
  let (link, client) := client.close
  let machine := machine.setClient index client
  let machine := match link with
    | some link =>
      machine.setSocket link.socket ((machine.socket link.socket).leave .client)
    | none => machine
  (link, machine.settle patience)

/-- Runs a plan on the link of a client, if it has one, and lets the server go on after it. -/
def perform [Transferable ι] [Reversible ι] [Depot δ ι] (machine : Loopback δ ι) (index : Nat)
    (client : Client δ ι) (plan : Plan) : Option (Except ClientFault Unit × Loopback δ ι) :=
  match client.connection with
  | .error fault => some (.error fault, machine.setClient index client)
  | .ok link =>
    (machine.follow index client link patience false plan).map fun (result, machine) =>
      (result, machine.settle patience)

/--
Runs one round of a client, and closes its link if either end asked for that; returns the link as
the round left it.
-/
def round [Transferable ι] [Reversible ι] [Depot δ ι] (machine : Loopback δ ι) (index : Nat)
    (client : Client δ ι) : Option (Except ClientFault (Option (Link ι)) × Loopback δ ι) := do
  let (result, machine) ← machine.perform index client .round
  let client ← machine.clients.get? index
  match result with
  | .error fault => some (.error fault, machine)
  | .ok () =>
    if client.isClosing then
      let (link, machine) := machine.close index client
      some (.ok link, machine)
    else some (.ok client.link, machine)

/-- Whether a client's link is up. -/
def isConnected (machine : Loopback δ ι) (client : Client δ ι) : Bool :=
  match client.link with
  | some link => link.isConnected (machine.socket link.socket)
  | none => false

/-- Sends parts over a socket without a client, ends the sending, and reads all that comes back. -/
def exchange [Transferable ι] [Reversible ι] [Depot δ ι] (machine : Loopback δ ι)
    (parts : List Bytes) : Except ServerFault Bytes × Loopback δ ι :=
  if machine.port = 0 then (.error .notRunning, machine)
  else if !machine.server.running then (.error .io, machine)
  else
    let (socket, machine) := machine.dial
    let pair := parts.foldl (fun pair part => (pair.send .client part).getD pair)
      (machine.socket socket)
    let machine := (machine.setSocket socket (pair.finish .client)).settle patience
    let pair := machine.socket socket
    (.ok pair.toClient.bytes, (machine.setSocket socket (pair.leave .client)).settle patience)

/-- Closes every client. -/
def closeAll [Transferable ι] [Reversible ι] [Depot δ ι] (machine : Loopback δ ι) :
    Loopback δ ι :=
  machine.clients.entries.foldl (fun machine (index, client) => (machine.close index client).2)
    machine

end Loopback

end SentinelRounds
