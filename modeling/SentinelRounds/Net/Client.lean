import SentinelRounds.Net.Plan
import SentinelRounds.Net.Settings

/-! A client: at most one link, and the rounds it starts on it. -/

namespace SentinelRounds

/-- The state of a client. -/
inductive ClientState
  | disconnected
  | connecting
  | connected
  deriving DecidableEq, Repr

/-- The name a state has in answers. -/
def ClientState.name : ClientState → String
  | .disconnected => "Disconnected"
  | .connecting => "Connecting"
  | .connected => "Connected"

/-- What the system makes of an attempt to open a socket. -/
inductive Opening
  /-- The host has no address. -/
  | unresolved
  | refused
  /-- A socket, and whether its options could be set. -/
  | opened (socket : Nat) (ready : Bool)
  deriving DecidableEq, Repr

/-- A client. -/
structure Client (δ ι : Type) where
  net : NetSettings
  hooks : Hooks ι
  site : Site δ
  state : ClientState := .disconnected
  link : Option (Link ι) := none

namespace Client

variable {δ ι : Type}

/-- The link of a fresh socket, once its hooks have run. -/
def attach [Reversible ι] (client : Client δ ι) (socket : Nat) : Client δ ι :=
  -- A client has one link at a time, so its number says nothing.
  let link : Link ι := .opened 0 .client socket client.net.identity client.net.settings
  let (round, site) := client.hooks.run .connected link.role link.round client.site
  { client with site, state := .connected, link := some { link with round } }

/-- Whether a client may try to connect. -/
def checkIdle (client : Client δ ι) : Except ClientFault Unit :=
  -- The settings are judged first, so a connected client may read of them as well.
  match client.net.settings.check with
  | .error fault => .error (.settings fault)
  | .ok () => if client.state = .disconnected then .ok () else .error .alreadyConnected

/-- The client after an attempt that has not opened a socket. -/
def giveUp (client : Client δ ι) : Client δ ι := { client with state := .disconnected }

/--
Connects, given what the system makes of it; the client counts as connecting until the socket has
been opened or refused, and stays so if the options of the socket cannot be set.
-/
def connect [Reversible ι] (client : Client δ ι) (opening : Opening) :
    Except ClientFault Unit × Client δ ι :=
  match client.checkIdle with
  | .error fault => (.error fault, client)
  | .ok () =>
    match opening with
    | .unresolved => (.error (.connect client.net.endpoint false), client.giveUp)
    | .refused => (.error (.connect client.net.endpoint true), client.giveUp)
    | .opened _ false => (.error .io, { client with state := .connecting })
    | .opened socket true => (.ok (), client.attach socket)

/-- The live link. -/
def connection (client : Client δ ι) : Except ClientFault (Link ι) :=
  -- The state is not asked, only whether there is a link.
  match client.link with
  | some link => .ok link
  | none => .error .notConnected

/-- The client with some changes made to the round of its live link in order. -/
def act [Reversible ι] (client : Client δ ι) (actions : List (Action ι)) : Client δ ι :=
  { client with link := client.link.map fun link => link.act actions }

/--
One step of a plan on the live link, given what the socket answers; nothing if there is no link or
the plan has to wait.
-/
def step [Transferable ι] [Reversible ι] [Depot δ ι] (client : Client δ ι) (plan : Plan)
    (reply : Reply) : Option (Progress × Client δ ι) :=
  match client.link with
  | none => none
  | some link =>
    (plan.step client.hooks true reply link client.site).map fun (progress, link, site) =>
      (progress, { client with site, link := some link })

/-- Whether the last round asked for the link to be closed. -/
def isClosing (client : Client δ ι) : Bool :=
  -- Either end may have asked, for a closing is taken over with the header.
  match client.link with
  | some link => link.round.context.close
  | none => false

/-- Gives the link up, after shutting it down; returns it as it was left. -/
def close (client : Client δ ι) : Option (Link ι) × Client δ ι :=
  -- Nobody else uses the link, so all steps are taken at once.
  (client.link.map Shutdown.complete, { client with state := .disconnected, link := none })

end Client

end SentinelRounds
