import SentinelRounds.Round.Fault

/-! Everything that can go wrong between sockets and rounds, and how it is worded. -/

namespace SentinelRounds

/-- Why a call on a link fails. -/
inductive LinkFault
  /-- The socket cannot be written or read. -/
  | io
  | round (fault : RoundFault)
  /-- A whole receive buffer holds no terminator. -/
  | overflow (phase : Phase)
  /-- The stream has ended. -/
  | closed
  deriving DecidableEq, Repr

/-- Whether a call that fails like this does not return. -/
def LinkFault.isFatal : LinkFault → Bool
  | .round fault => fault.isFatal
  | _ => false

/-- The short name that tells failed calls apart. -/
def LinkFault.kind : LinkFault → String
  | .io => "Io"
  | .round fault => "Transfer/" ++ fault.kind
  | .overflow _ => "Overflow"
  | .closed => "Closed"

/-- Whether the system words a fault in its own way. -/
def LinkFault.isSystem : LinkFault → Bool
  | .io => true
  | _ => false

/-- The wording of a failed call, to which the system adds its own for a socket. -/
def LinkFault.message : LinkFault → String
  | .io => "IO error"
  | .round fault => "Transfer error: " ++ fault.message
  | .overflow phase => phase.name ++ " frame does not fit its receive buffer"
  | .closed => "Connection closed"

/-- The written form of the number of a link. -/
def linkName (id : Nat) : String := s!"#{id}"

/-- Why a client cannot do as asked. -/
inductive ClientFault
  | io
  | link (fault : LinkFault)
  | settings (fault : SettingsFault)
  /-- No socket could be opened to an endpoint, whether or not its host has an address. -/
  | connect (endpoint : String) (resolved : Bool)
  | alreadyConnected
  | notConnected
  deriving DecidableEq, Repr

/-- The short name that tells a client's faults apart. -/
def ClientFault.kind : ClientFault → String
  | .io => "Io"
  | .link fault => "Connection/" ++ fault.kind
  | .settings fault => "Transfer/" ++ (RoundFault.settings fault).kind
  | .connect .. => "Connect"
  | .alreadyConnected => "AlreadyConnected"
  | .notConnected => "NotConnected"

/-- Whether the system words a fault in its own way. -/
def ClientFault.isSystem : ClientFault → Bool
  | .io | .connect .. => true
  | .link fault => fault.isSystem
  | _ => false

/-- The wording of a client's fault. -/
def ClientFault.message : ClientFault → String
  | .io => "IO error"
  | .link fault => "Connection error: " ++ fault.message
  | .settings fault => "Transfer error: " ++ (RoundFault.settings fault).message
  | .connect endpoint _ => "Failed to connect to " ++ endpoint
  | .alreadyConnected => "Already connected"
  | .notConnected => "Not connected"

/-- Why a server cannot do as asked. -/
inductive ServerFault
  | io
  | link (fault : LinkFault)
  | settings (fault : SettingsFault)
  | alreadyRunning
  | notRunning
  /-- An endpoint cannot be listened on. -/
  | bindFailed (endpoint : String)
  | unknown (id : Nat)
  deriving DecidableEq, Repr

/-- The short name that tells a server's faults apart. -/
def ServerFault.kind : ServerFault → String
  | .io => "Io"
  | .link fault => "Connection/" ++ fault.kind
  | .settings fault => "Transfer/" ++ (RoundFault.settings fault).kind
  | .alreadyRunning => "AlreadyRunning"
  | .notRunning => "NotRunning"
  | .bindFailed _ => "BindFailed"
  | .unknown _ => "UnknownConnection"

/-- Whether the system words a fault in its own way. -/
def ServerFault.isSystem : ServerFault → Bool
  | .io | .bindFailed _ => true
  | .link fault => fault.isSystem
  | _ => false

/-- The wording of a server's fault. -/
def ServerFault.message : ServerFault → String
  | .io => "IO error"
  | .link fault => "Connection error: " ++ fault.message
  | .settings fault => "Transfer error: " ++ (RoundFault.settings fault).message
  | .alreadyRunning => "Server already running"
  | .notRunning => "Server not running"
  | .bindFailed endpoint => "Bind failed: Failed to bind to " ++ endpoint
  | .unknown id => "Unknown connection " ++ linkName id

end SentinelRounds
