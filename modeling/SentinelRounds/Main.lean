import SentinelRounds.Command.Host
import SentinelRounds.Text.Uuid

/-! The program: runs a command line on this host, with the sockets of a server in memory. -/

namespace SentinelRounds

namespace Program

/-- What stands at a path: nothing, a file, or something that can only be a directory. -/
def look (path : String) : IO (Option (Option Bytes)) := do
  try
    let content ← IO.FS.readBinFile path
    return some (some content.toList)
  catch
    | .noFileOrDirectory .. => return none
    | _ => return some none

/-- The disk as far as some paths lead. -/
def lookAll (paths : List String) : IO Disk := do
  let found ← paths.mapM fun path => return (path, ← look path)
  return .ofFiles (found.filterMap fun (path, entry) => entry.map fun content => (path, content))

/-- Where the settings of the user are. -/
def userDirectory : IO String := do
  match ← IO.getEnv "XDG_CONFIG_HOME" with
  | some directory => return directory
  | none => return (← IO.getEnv "HOME").getD "" ++ "/.config"

/-- The name of this host. -/
def hostName : IO String := do
  try
    return (← IO.FS.readFile "/proc/sys/kernel/hostname").trimAscii.toString
  catch _ => return "unknown"

/-- Shows what a command has to show. -/
def present (outcome : Outcome) : IO Unit := do
  outcome.lines.forM fun line => IO.println line
  outcome.fault.forM fun fault => IO.eprintln ("Error: " ++ fault.message)

/-- Runs every line of the input as a command line beside the server, until the input ends. -/
partial def attend (host : Host) (input : IO.FS.Stream) : IO Host := do
  let line ← input.getLine
  if line.isEmpty then return host
  let arguments := (line.trimAscii.toString.splitOn " ").filter (· ≠ "")
  let (outcome, host) := host.run arguments
  present outcome
  attend host input

/-- Writes what a command has written to some paths. -/
def save (before after : Disk) (paths : List String) : IO Unit :=
  paths.forM fun path =>
    match after.read (.ofText path) with
    | .ok content =>
      if (before.read (.ofText path)).toOption = some content then return ()
      else IO.FS.writeBinFile path ⟨content.toArray⟩
    | .error _ => return ()

/-- Runs a command line on this host. -/
def run (arguments : List String) : IO UInt32 := do
  let directory ← userDirectory
  let paths := match Invocation.read arguments with
    | .ok invocation => Host.paths directory invocation
    | .error _ => []
  let disk ← lookAll paths
  let freshId := Uuid.ofBytes (← IO.getRandomBytes (.ofNat Uuid.width)).toList
  let host : Host := { name := ← hostName, freshId, userDirectory := directory, disk }
  let (outcome, host) := host.run arguments
  present outcome
  save disk host.disk paths
  if host.machine.server.running then
    let host ← attend host (← IO.getStdin)
    let (outcome, _) := host.interrupt
    present outcome
    return .ofNat outcome.code
  else return .ofNat outcome.code

end Program

end SentinelRounds

/-- Runs the command line that the program was started with. -/
def main (arguments : List String) : IO UInt32 := SentinelRounds.Program.run arguments
