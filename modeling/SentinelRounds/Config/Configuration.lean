import SentinelRounds.Net.Settings
import SentinelRounds.Toml.Document

/-! What the settings file of a host says. -/

namespace SentinelRounds

/-- Who a host is. -/
structure General where
  /-- The id announced to peers; without one, every run takes a fresh id. -/
  hostId : Option String := none
  name : String
  /-- Whether to log every detail. -/
  verbose : Bool := false
  deriving DecidableEq, Repr

namespace General

/-- How the general settings are encoded; only the name has no fallback. -/
def schema : Schema General :=
  .record "General"
    (.field "host_id" (.optional .text) none <|
      .field "name" .text none <|
      .field "verbose" .flag (some false) .done)
    (fun (hostId, name, verbose, ()) => { hostId, name, verbose })
    (fun general => (general.hostId, general.name, general.verbose, ()))

end General

/-- Where a host is found, and where it looks for others. -/
structure Reach where
  /-- The host that clients connect to. -/
  host : String := "127.0.0.1"
  port : UInt16 := .ofNat defaultPort
  /-- The interface that servers listen on. -/
  bindAddress : String := "0.0.0.0"
  /-- Whether small writes are sent at once. -/
  nodelay : Bool := true
  deriving DecidableEq, Repr

namespace Reach

/-- How the network settings are encoded; every field has a fallback. -/
def schema : Schema Reach :=
  let standard : Reach := {}
  .record "Network"
    (.field "host" .text (some standard.host) <|
      .field "port" .word16 (some standard.port) <|
      .field "bind_address" .text (some standard.bindAddress) <|
      .field "nodelay" .flag (some standard.nodelay) .done)
    (fun (host, port, bindAddress, nodelay, ()) => { host, port, bindAddress, nodelay })
    (fun reach => (reach.host, reach.port, reach.bindAddress, reach.nodelay, ()))

end Reach

/-- Everything a settings file can set. -/
structure Configuration where
  general : General
  network : Reach := {}
  transfer : Settings := {}
  deriving DecidableEq, Repr

namespace Configuration

/-- The configuration of a host without a settings file. -/
def standard (hostName : String) : Configuration := { general := { name := hostName } }

/-- How configurations are encoded; a table that is missing takes its standard settings. -/
def schema (hostName : String) : Schema Configuration :=
  .record "Configuration"
    (.field "general" General.schema (some { name := hostName }) <|
      .field "network" Reach.schema (some {}) <|
      .field "transfer" Settings.schema (some {}) .done)
    (fun (general, network, transfer, ()) => { general, network, transfer })
    (fun configuration =>
      (configuration.general, configuration.network, configuration.transfer, ()))

/-- The configuration that the text of a settings file says. -/
def ofText (hostName text : String) : Option Configuration := do
  -- The text is judged as a whole before any setting is taken from it.
  let tree ← Toml.Document.read text.toList
  (schema hostName).tree.read .file tree

/-- The text of a settings file that says a configuration; a number can be too large for it. -/
def text? (configuration : Configuration) : Option String := do
  let tree ← (schema configuration.general.name).tree.write configuration
  let text ← Toml.Document.write tree
  pure (String.ofList text)

/-- The identity announced to peers, which takes a fresh id if none is set. -/
def identity (configuration : Configuration) (freshId : String) : Identity :=
  -- Two runs of a host without an id of its own are two peers.
  ⟨configuration.general.hostId.getD freshId, configuration.general.name⟩

/-- The settings of an end that uses a host. -/
def atHost (configuration : Configuration) (freshId host : String) : NetSettings :=
  -- Everything but the host is the same for both ends.
  { host
    port := configuration.network.port.toNat
    nodelay := configuration.network.nodelay
    identity := configuration.identity freshId
    settings := configuration.transfer }

/-- The settings of a client. -/
def client (configuration : Configuration) (freshId : String) : NetSettings :=
  configuration.atHost freshId configuration.network.host

/-- The settings of a server. -/
def server (configuration : Configuration) (freshId : String) : NetSettings :=
  configuration.atHost freshId configuration.network.bindAddress

/-- A configuration to start from. -/
def sample : Configuration where
  general := { hostId := some "workstation-01", name := "Workstation" }
  transfer := { batchSize := 16 * 1024, messageCapacity := 20 * 1024 }

end Configuration

end SentinelRounds
