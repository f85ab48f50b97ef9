import SentinelRounds.Net.Duplex

/-! Two ends of one socket pair that take turns: each is a link, a bare socket, or gone. -/

namespace SentinelRounds

/-- A link with what its end needs to run calls on it. -/
structure Station (δ ι : Type) where
  link : Link ι
  site : Site δ
  hooks : Hooks ι

/-- One end of a socket pair. -/
inductive Terminal (δ ι : Type)
  | station (station : Station δ ι)
  /-- A socket without a link. -/
  | bare
  | gone

/-- A socket pair and its two ends. -/
structure Pair (δ ι : Type) where
  client : Terminal δ ι
  server : Terminal δ ι
  socket : Duplex := {}

namespace Station

variable {δ ι : Type}

/-- Runs a call until it has to wait, or is over. -/
def run [Transferable ι] [Reversible ι] [Depot δ ι] (station : Station δ ι) (hooks : Hooks ι)
    (call : Call) (socket : Duplex) : Call × Station δ ι × Duplex :=
  let (call, link, site, socket) := call.run hooks Call.patience station.link station.site socket
  (call, { station with link, site }, socket)

/--
Whether the other end may still send; a call that waits for it owns the socket, and will see its end
itself.
-/
def isConnected (station : Station δ ι) (call : Call) (socket : Duplex) : Bool :=
  -- A call under way has not seen the end of the stream yet, or it would be over.
  if call.isOver then station.link.isConnected socket else !station.link.state.isOver

/--
Runs a call while the other end sends parts, each once the call has to wait; tells for each part
whether the link was up just before it.
-/
def runSlowly [Transferable ι] [Reversible ι] [Depot δ ι] (station : Station δ ι) (call : Call)
    (socket : Duplex) : (parts : List Bytes) → List Bool × Call × Station δ ι × Duplex
  -- After the last part the call goes on as far as it can.
  | [] =>
    let (call, station, socket) := station.run station.hooks call socket
    ([], call, station, socket)
  | part :: parts =>
    let (call, station, socket) := station.run station.hooks call socket
    let up := station.isConnected call socket
    let socket := (socket.send station.link.role.other part).getD socket
    let (ups, call, station, socket) := station.runSlowly call socket parts
    (up :: ups, call, station, socket)

/-- Shuts the link down. -/
def shutdown (station : Station δ ι) (socket : Duplex) : Station δ ι × Duplex :=
  ({ station with link := Shutdown.complete station.link }, socket.finish station.link.role)

end Station

namespace Pair

variable {δ ι : Type}

/-- The end that plays a role. -/
def terminal (pair : Pair δ ι) : Role → Terminal δ ι
  | .client => pair.client
  | .server => pair.server

/-- The pair with one end replaced. -/
def setTerminal (pair : Pair δ ι) : Role → Terminal δ ι → Pair δ ι
  | .client, client => { pair with client }
  | .server, server => { pair with server }

/-- Takes an end away. -/
def drop (pair : Pair δ ι) (role : Role) : Pair δ ι :=
  { pair with socket := pair.socket.leave role }.setTerminal role .gone

end Pair

end SentinelRounds
