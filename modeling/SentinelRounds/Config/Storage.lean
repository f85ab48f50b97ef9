import SentinelRounds.Config.Configuration
import SentinelRounds.Disk.Tree
import SentinelRounds.Text.Utf8

/-! Settings files on a disk: loaded by path, looked for, and saved. -/

namespace SentinelRounds

/-- Why a configuration cannot be loaded or saved. -/
inductive ConfigFault
  | disk (fault : DiskFault)
  /-- The text is no settings file, or sets something to what it cannot be. -/
  | parse
  /-- The configuration has no written form. -/
  | serialize
  | notFound (path : String)
  deriving DecidableEq, Repr

namespace ConfigFault

/-- The short name that tells faults apart. -/
def kind : ConfigFault → String
  | .disk _ => "Io"
  | .parse => "Parse"
  | .serialize => "Serialize"
  | .notFound _ => "NotFound"

/-- What tells faults of one kind apart. -/
def detail : ConfigFault → Option String
  | .disk fault => some fault.kind
  | .notFound path => some ("Config file not found: " ++ path)
  | .parse | .serialize => none

/-- Whether the system words a fault in its own way. -/
def isSystem : ConfigFault → Bool
  | .disk fault => fault.isSystem
  | _ => false

/-- The wording of a fault. -/
def message : ConfigFault → String
  | .disk fault => "IO error: " ++ fault.message
  | .parse => "Parse error"
  | .serialize => "Serialize error"
  | .notFound path => "Config file not found: " ++ path

end ConfigFault

namespace Configuration

/-- Loads a settings file. -/
def load (disk : Disk) (hostName path : String) : Except ConfigFault Configuration :=
  -- A file that is missing is told apart from one that cannot be read.
  let place := Path.ofText path
  if !disk.exists? place then .error (.notFound path)
  else
    match disk.read place with
    | .error fault => .error (.disk fault)
    | .ok bytes =>
      match Utf8.decode bytes with
      | .error _ => .error (.disk .invalidData)
      | .ok text =>
        match ofText hostName text with
        | none => .error .parse
        | some configuration => .ok configuration

/-- Where settings files are looked for, first the one of the user. -/
def places (userDirectory : String) : List String :=
  [userDirectory ++ "/ethernet-transfer/config.toml", "./ethernet-transfer.toml", "./config.toml"]

/-- Loads the first settings file that exists, or takes the standard configuration. -/
def loadFound (disk : Disk) (hostName userDirectory : String) :
    Except ConfigFault Configuration :=
  -- A file that exists is loaded even if it turns out to be broken.
  match (places userDirectory).find? fun path => disk.exists? (.ofText path) with
  | some path => load disk hostName path
  | none => .ok (standard hostName)

/--
Saves a settings file, and makes the directory that it stands in; a configuration without a written
form leaves the disk alone.
-/
def save (disk : Disk) (configuration : Configuration) (path : String) :
    Except ConfigFault Unit × Disk :=
  match configuration.text? with
  | none => (.error .serialize, disk)
  | some text =>
    -- The directory is made first, and stays if the file then fails.
    let place := Path.ofText path
    match disk.makeWay place with
    | (.error fault, disk) => (.error (.disk fault), disk)
    | (.ok (), disk) =>
      match disk.write place (Utf8.encode text) with
      | .error fault => (.error (.disk fault), disk)
      | .ok disk => (.ok (), disk)

end Configuration

end SentinelRounds
