import SentinelRounds.Depot.Keyed
import SentinelRounds.Net.Caller
import SentinelRounds.Net.Service
import SentinelRounds.Net.Settings

/-! A server: who accepts, who serves, who calls from outside, and the two tables they share. -/

namespace SentinelRounds

/-- Where the accepting of sockets stands. -/
inductive Acceptor
  /-- Nobody accepts. -/
  | absent
  | idle
  /-- About to make a link of a socket. -/
  | opened (socket : Nat)
  /-- About to enter a link into the registry. -/
  | enroll (id : Nat)
  /-- About to start the service of a link. -/
  | start (id : Nat)
  /-- About to enter a service that has just been started into the table, which is held until then. -/
  | list (id : Nat)
  /-- About to note that the server does not run any more. -/
  | leaving
  deriving DecidableEq, Repr

/-- A server and everyone who acts in it. -/
structure Server (δ ι : Type) where
  net : NetSettings
  hooks : Hooks ι
  site : Site δ
  running : Bool := false
  /-- Whether the acceptor can still be asked to leave. -/
  askable : Bool := false
  /-- Whether the acceptor has been asked to leave. -/
  asked : Bool := false
  acceptor : Acceptor := .absent
  /-- The number of the next link. -/
  nextId : Nat := 1
  links : Keyed Nat (Link ι) := .empty
  /-- The links that can be found by number. -/
  registry : List Nat := []
  services : Keyed Nat Service := .empty
  /-- The services that the server knows of. -/
  table : List Nat := []
  /-- The services that end at their next pause. -/
  doomed : List Nat := []
  callers : List Caller := []
  reports : List Report := []

/-- What one step of a service or a caller is given from outside. -/
structure Cue where
  /-- Which half of a round takes the step, if both can. -/
  half : Transit
  reply : Reply
  deriving DecidableEq, Repr

/-- One step of somebody in a server. -/
inductive Move
  /-- A socket is accepted; without its options set it is dropped at once. -/
  | accept (socket : Nat) (ready : Bool)
  | advance
  | serve (id : Nat) (cue : Cue)
  /-- An aborted service ends. -/
  | drop (id : Nat)
  /-- Somebody outside starts a call. -/
  | call (caller : Caller)
  | attend (index : Nat) (reply : Reply)
  deriving DecidableEq, Repr

namespace Server

variable {δ ι : Type}

/-- Starts accepting, given whether the endpoint can be listened on. -/
def start (server : Server δ ι) (bound : Bool) : Except ServerFault (Server δ ι) :=
  -- The endpoint is tried last, so a server that may not start leaves it alone.
  if server.running then .error .alreadyRunning
  else
    match server.net.settings.check with
    | .error fault => .error (.settings fault)
    | .ok () =>
      if bound then
        .ok { server with running := true, askable := true, asked := false, acceptor := .idle }
      else .error (.bindFailed server.net.endpoint)

/-- Whether the acceptor holds the table of services, so that nobody else can touch it. -/
def isListing (server : Server δ ι) : Bool :=
  match server.acceptor with
  | .list _ => true
  | _ => false

/-- Takes a socket if nobody is at the door. -/
def accept (server : Server δ ι) (socket : Nat) (ready : Bool) : Option (Server δ ι) :=
  -- A socket without its options is dropped before it becomes a link.
  match server.acceptor with
  | .idle => some (if ready then { server with acceptor := .opened socket } else server)
  | _ => none

/-- Makes a link of a socket, under the next number. -/
def wrap [Reversible ι] (server : Server δ ι) (socket : Nat) : Server δ ι :=
  -- The link has a number before anyone can find it by that number.
  let id := server.nextId
  let link : Link ι := .opened id .server socket server.net.identity server.net.settings
  let (round, site) := server.hooks.run .connected link.role link.round server.site
  { server with
    site
    nextId := id + 1
    links := server.links.insert id { link with round }
    acceptor := .enroll id }

/-- The next step of the acceptor. -/
def advance [Reversible ι] (server : Server δ ι) : Option (Server δ ι) :=
  match server.acceptor with
  | .absent => none
  | .idle =>
    -- The acceptor leaves only where it would wait for a socket.
    if server.asked then some { server with asked := false, acceptor := .leaving } else none
  | .opened socket => some (server.wrap socket)
  | .enroll id => some { server with registry := server.registry ++ [id], acceptor := .start id }
  -- The service may take its steps at once, but it cannot leave the table before it is in it.
  | .start id =>
    some { server with services := server.services.insert id .greet, acceptor := .list id }
  | .list id => some { server with table := server.table ++ [id], acceptor := .idle }
  | .leaving => some { server with running := false, acceptor := .absent }

/-- Puts the outcome of a step of a service back. -/
def store (server : Server δ ι) (id : Nat) (service : Service) (link : Link ι) (site : Site δ) :
    Server δ ι :=
  { server with
    site
    services := server.services.insert id service
    links := server.links.insert id link }

/-- Adds a report. -/
def note (server : Server δ ι) (report : Report) : Server δ ι :=
  { server with reports := server.reports ++ [report] }

/-- Ends a service, which leaves the table itself. -/
def dismiss (server : Server δ ι) (id : Nat) : Server δ ι :=
  -- The link stays: the registry or a call from outside may still need it.
  { server with
    services := server.services.erase id
    table := server.table.filter fun other => other ≠ id
    doomed := server.doomed.filter fun other => other ≠ id }

/--
The next step of the service of a link, given which half moves and what the socket answers; nothing
if it has to wait.
-/
def serve [Transferable ι] [Reversible ι] [Depot δ ι] (server : Server δ ι) (id : Nat)
    (cue : Cue) : Option (Server δ ι) := do
  let service ← server.services.get? id
  let link ← server.links.get? id
  -- A link that has left the registry is lost to its service, but may still be in use.
  let registered := server.registry.contains id
  -- A step either moves the service alone, or follows a plan of its link.
  let stay (service : Service) := server.store id service link server.site
  let follow (plan : Plan) (onward : Plan → Service) : Option (Server δ ι) :=
    (plan.step server.hooks registered cue.reply link server.site).map
      fun (progress, link, site) =>
        match progress with
        | .going plan => server.store id (onward plan) link site
        -- A service that does not return from its round never gets to unregister.
        | .failed fault =>
          server.store id (if fault.isFatal then .fallen else .unregister) link site
        | .lost => server.store id .unregister link site
  match service with
  | .greet => some ((stay (.request .greeting)).note (.accepted id))
  | .request plan => follow plan fun plan => if plan = [] then .mode else .request plan
  | .mode =>
    -- The mode is read once, after the request's header and its hooks.
    let pipelined := link.role.pipelines link.round.context.synchronic
    some (stay (.halves .request (.response pipelined)))
  | .halves incoming outgoing =>
    -- The halves take turns in any order.
    match cue.half with
    | .receive => follow incoming fun incoming => .ofHalves incoming outgoing
    | .send => follow outgoing fun outgoing => .ofHalves incoming outgoing
  | .report =>
    let stats := link.stats
    -- The counts of the report are those of the link, not of the round.
    let report : Report :=
      .round id stats.rounds stats.chunksReceived stats.chunksSent link.round.responseHeader.notice
    some ((stay (if link.round.context.close then .unregister else .request .greeting)).note report)
  | .unregister =>
    if registered then
      let server := stay (.shut .announce)
      some { server with registry := server.registry.filter fun other => other ≠ id }
    else some (stay .retire)
  | .shut shutdown =>
    let (shutdown, link) := shutdown.step link
    let service := if shutdown = .done then .farewell else .shut shutdown
    some (server.store id service link server.site)
  | .farewell => some ((stay .retire).note (.closed id))
  | .retire => if server.isListing then none else some (server.dismiss id)
  | .fallen => none

/-- Puts the outcome of a step of a caller back. -/
def keep (server : Server δ ι) (index : Nat) (caller : Caller) : Server δ ι :=
  { server with callers := server.callers.set index caller }

/-- One step of shutting down a link that is no longer in the registry. -/
def shutLink (server : Server δ ι) (id : Nat) (shutdown : Shutdown) : Shutdown × Server δ ι :=
  -- A link that is gone already needs no shutting down.
  match server.links.get? id with
  | none => (.done, server)
  | some link =>
    let (shutdown, link) := shutdown.step link
    (shutdown, { server with links := server.links.insert id link })

/-- The next step of a call from outside; nothing if it has to wait, or is over. -/
def attend [Transferable ι] [Reversible ι] [Depot δ ι] (server : Server δ ι) (index : Nat)
    (reply : Reply) : Option (Server δ ι) := do
  let caller ← server.callers[index]?
  match caller with
  -- Whoever takes the link out of the registry shuts it down.
  | .remove id =>
    if server.registry.contains id then
      let registry := server.registry.filter fun other => other ≠ id
      some ({ server with registry }.keep index (.shut id .announce))
    else some (server.keep index (.failed (.unknown id)))
  | .shut id shutdown =>
    let (shutdown, server) := server.shutLink id shutdown
    some (server.keep index (if shutdown = .done then .succeeded else .shut id shutdown))
  | .using id plan =>
    match server.links.get? id with
    | none => some (server.keep index (.failed (.unknown id)))
    | some link =>
      let registered := server.registry.contains id
      (plan.step server.hooks registered reply link server.site).map fun (progress, link, site) =>
        let server := { server with site, links := server.links.insert id link }
        match progress with
        | .going plan => server.keep index (if plan = [] then .succeeded else .using id plan)
        | .failed fault => server.keep index (.failed (.link fault))
        | .lost => server.keep index (.failed (.unknown id))
  | .stop => some (server.keep index (if server.running then .ask else .failed .notRunning))
  | .ask =>
    let asked := server.asked || server.askable
    some ({ server with askable := false, asked }.keep index .abort)
  -- Stopping aborts the services first, so that none of them can use the registry any more.
  | .abort =>
    if server.isListing then none
    else
      let doomed := server.doomed ++ server.table
      some ({ server with table := [], doomed }.keep index .clear)
  | .clear =>
    some ({ server with registry := [] }.keep index (.shutAll .announce server.registry))
  | .shutAll _ [] => some (server.keep index .succeeded)
  | .shutAll shutdown (id :: ids) =>
    let (shutdown, server) := server.shutLink id shutdown
    some (server.keep index
      (if shutdown = .done then .shutAll .announce ids else .shutAll shutdown (id :: ids)))
  | .succeeded | .failed _ => none

/-- One step of somebody in a server; nothing if that step cannot be taken. -/
def step [Transferable ι] [Reversible ι] [Depot δ ι] (server : Server δ ι) :
    Move → Option (Server δ ι)
  | .accept socket ready => server.accept socket ready
  | .advance => server.advance
  | .serve id cue => server.serve id cue
  -- An aborted service ends wherever it stands, and reports nothing.
  | .drop id => if server.doomed.contains id then some (server.dismiss id) else none
  | .call caller => some { server with callers := server.callers ++ [caller] }
  | .attend index reply => server.attend index reply

/-- Whether the service of a link still takes steps. -/
def isServed (server : Server δ ι) (id : Nat) : Bool :=
  match server.services.get? id with
  | none | some .fallen => false
  | some _ => true

/-- Whether anybody still needs a link; a link that nobody needs gives its socket up. -/
def holds (server : Server δ ι) (id : Nat) : Bool :=
  -- A link on its way into the registry is needed as well.
  server.registry.contains id || server.isServed id ||
    match server.acceptor with
    | .enroll other | .start other => id == other
    | _ => false

end Server

end SentinelRounds
