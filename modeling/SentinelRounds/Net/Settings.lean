import SentinelRounds.Round.Identity
import SentinelRounds.Round.Settings

/-! What one end needs to know to listen or to connect. -/

namespace SentinelRounds

/-- The port used where none is configured. -/
def defaultPort : Nat := 28500

/-- Where to listen or to connect, and as whom. -/
structure NetSettings where
  /-- The host to connect to, or to bind on. -/
  host : String := "127.0.0.1"
  port : Nat := defaultPort
  /-- Whether small writes are sent at once on every socket. -/
  nodelay : Bool := true
  identity : Identity := {}
  settings : Settings := {}
  deriving DecidableEq, Repr, Inhabited

namespace NetSettings

/-- Host and port as given. -/
def endpoint (net : NetSettings) : String := s!"{net.host}:{net.port}"

/-- The same end in the given mode. -/
def withMode (net : NetSettings) (synchronic : Bool) : NetSettings :=
  { net with settings := { net.settings with synchronic } }

end NetSettings

end SentinelRounds
