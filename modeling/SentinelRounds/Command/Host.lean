import SentinelRounds.Command.Invocation
import SentinelRounds.Config.Storage
import SentinelRounds.Net.Echo
import SentinelRounds.Net.Loopback

/-! A host on which commands run, one after another, beside at most one server. -/

namespace SentinelRounds

/-- Why a command fails. -/
inductive CommandFault
  | config (fault : ConfigFault)
  | disk (fault : DiskFault)
  | port (fault : PortFault)
  | client (fault : ClientFault)
  | server (fault : ServerFault)
  deriving DecidableEq, Repr

namespace CommandFault

/-- Whether the system words a fault in its own way; a host without an address is no such fault. -/
def isSystem : CommandFault → Bool
  | .config fault => fault.isSystem
  | .disk fault => fault.isSystem
  | .port _ => false
  | .client (.connect _ resolved) => resolved
  | .client fault => fault.isSystem
  | .server fault => fault.isSystem

/-- The wording of a fault. -/
def message : CommandFault → String
  | .config fault => fault.message
  | .disk fault => fault.message
  | .port fault => fault.message
  | .client (.connect _ false) => "Failed to connect"
  | .client fault => fault.message
  | .server fault => fault.message

end CommandFault

/-- What a command shows and how it ends. -/
structure Outcome where
  code : Nat := 0
  lines : List String := []
  fault : Option CommandFault := none
  deriving DecidableEq, Repr

/-- The outcome of a command that fails. -/
def Outcome.failed (fault : CommandFault) : Outcome := { code := 1, fault := some fault }

/-- A host. -/
structure Host where
  name : String
  /-- The id of a host that has none of its own. -/
  freshId : String
  /-- Where the settings of the user are. -/
  userDirectory : String
  disk : Disk
  machine : Loopback MemoryDepot Parcel := { server := .echoing {} }

namespace Host

/-- The configuration that a command runs with; only a file that is named has to be in order. -/
def configuration (host : Host) : (path : Option String) → Except ConfigFault Configuration
  -- A file that was only found may be broken without harm.
  | some path => Configuration.load host.disk host.name path
  | none =>
    match Configuration.loadFound host.disk host.name host.userDirectory with
    | .ok configuration => .ok configuration
    | .error _ => .ok (.standard host.name)

/-- What the server shows before it waits. -/
def banner (identity : Identity) (endpoint : String) : List String :=
  let rule := String.ofList (List.replicate 40 '=')
  ["", rule, "  Ethernet Transfer Server Running", rule, "  Name: " ++ identity.name,
    "  Id: " ++ identity.id, "  Listening: " ++ endpoint, rule, "", "Press Ctrl+C to stop.", ""]

/-- Starts the server of a host, in place of any other. -/
def serve (host : Host) (net : NetSettings) : Outcome × Host :=
  -- The new server has none of the links or reports of the one before it.
  match { host.machine with server := .echoing net }.start with
  | (.error fault, machine) => (.failed (.server fault), { host with machine })
  | (.ok (), machine) =>
    let endpoint := match Address.ofHost? net.host with
      | some address => address.endpoint machine.port
      | none => net.endpoint
    ({ lines := banner net.identity endpoint }, { host with machine })

/-- Interrupts the server, which shows what it has reported. -/
def interrupt (host : Host) : Outcome × Host :=
  -- Reports are shown as they were before the server stopped.
  let shown := host.machine.server.reports.map fun report =>
    report.text s!"{Loopback.host}:{report.id}"
  match host.machine.call .stop with
  | (.error fault, machine) => (.failed (.server fault), { host with machine })
  | (.ok (), machine) => ({ lines := shown ++ ["", "Shutting down..."] }, { host with machine })

/-- Runs one round of a client on a machine, and closes it whatever comes of that. -/
def visit (machine : Loopback MemoryDepot Parcel) (net : NetSettings) (items : List Parcel) :
    Except ClientFault (Link Parcel × MemoryDepot) × Loopback MemoryDepot Parcel :=
  -- Every run of a client has a depot of its own.
  let index := machine.clients.size
  let client : Client MemoryDepot Parcel :=
    { net, hooks := .none, site := { depot := .unrestricted } }
  match machine.connect index client with
  | (.error fault, machine) => (.error fault, machine)
  | (.ok (), machine) =>
    let client := ((machine.clients.get? index).getD client).act [.items items]
    let ended (result : Except ClientFault (Option (Link Parcel)))
        (machine : Loopback MemoryDepot Parcel) :=
      let client := (machine.clients.get? index).getD client
      let (_, machine) := machine.close index client
      (match result with
        | .ok (some link) => .ok (link, client.site.depot)
        | .ok none => .error .notConnected
        | .error fault => .error fault, machine)
    match machine.round index client with
    | some (result, machine) => ended result machine
    | none => ended (.error (.link .closed)) (machine.setClient index client)

/-- What a client shows of a round. -/
def response (sent : Nat) (link : Link Parcel) (depot : MemoryDepot) : List String :=
  -- The depot has the parcels under the id of the server that sent them.
  let header := link.round.responseHeader
  [s!"Sent {sent} items to {header.identity.name}"] ++
    (if header.denied then ["Denied by server"] else []) ++
    (header.notice.map fun notice => "Notice: " ++ notice).toList ++
    (depot.parcels header.identity.id).map fun parcel =>
      s!"  {parcel.key} = {Utf8.decodeMarked parcel.body}"

/-- Points a client at a target if there is one. -/
def aim (net : NetSettings) : (target : Option String) → Except PortFault NetSettings
  | some target => net.pointedAt target
  | none => .ok net

/-- Runs a command with a configuration. -/
def perform (host : Host) (configuration : Configuration) : Command → Outcome × Host
  | .server port bindAddress =>
    let net := configuration.server host.freshId
    host.serve { net with host := bindAddress.getD net.host, port := port.getD net.port }
  | .client target items synchronic =>
    match aim (configuration.client host.freshId) target with
    | .error fault => (.failed (.port fault), host)
    | .ok net =>
      let net := if synchronic then net.withMode true else net
      match visit host.machine net items with
      | (.error fault, machine) => (.failed (.client fault), { host with machine })
      | (.ok (link, depot), machine) =>
        ({ lines := response items.length link depot }, { host with machine })
  | .config generate output =>
    let shown := if generate then Configuration.sample else configuration
    match shown.text? with
    | none => (.failed (.config .serialize), host)
    | some text =>
      match generate, output with
      | true, some path =>
        match host.disk.write (.ofText path) (Utf8.encode text) with
        | .error fault => (.failed (.disk fault), host)
        | .ok disk => ({ lines := ["Configuration written to: " ++ path] }, { host with disk })
      | _, _ => ({ lines := [text] }, host)
  | .info =>
    ({ lines := [s!"Protocol Version: {protocolVersion}", s!"Default Port: {defaultPort}",
        s!"Markup run length: {Scanner.defaultRunLength}"] }, host)

/-- The paths that a command looks at: where its configuration may be, and what it writes. -/
def paths (userDirectory : String) (invocation : Invocation) : List String :=
  -- The directory that a sample goes into has to exist already.
  let sources := match invocation.config with
    | some path => [path]
    | none => Configuration.places userDirectory
  match invocation.command with
  | .config true (some output) =>
    ((Path.ofText output).parent?.map Path.text).toList ++ output :: sources
  | _ => sources

/-- Runs a command line. -/
def run (host : Host) (arguments : List String) : Outcome × Host :=
  -- Help is no failure, but a misused command line is one.
  match Invocation.read arguments with
  | .error .shown => ({}, host)
  | .error .misused => ({ code := 2 }, host)
  | .ok invocation =>
    match host.configuration invocation.config with
    | .error fault => (.failed (.config fault), host)
    | .ok configuration => host.perform configuration invocation.command

end Host

end SentinelRounds
