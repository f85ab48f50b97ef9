import SentinelRounds.Command.Grammar
import SentinelRounds.Depot.Parcel
import SentinelRounds.Net.Target
import SentinelRounds.Text.Utf8

/-! The commands of the program, and how a command line says which one to run. -/

namespace SentinelRounds

/-- What to do. -/
inductive Command
  /-- Serve until interrupted. -/
  | server (port : Option Nat) (host : Option String)
  /-- Send items in one round and show what comes back. -/
  | client (target : Option String) (items : List Parcel) (synchronic : Bool)
  /-- Show the configuration, or a sample of one. -/
  | config (generate : Bool) (output : Option String)
  /-- Show what the protocol fixes. -/
  | info
  deriving DecidableEq, Repr

/-- A command, and what goes for every command. -/
structure Invocation where
  /-- The settings file to load in place of the one that would be found. -/
  config : Option String := none
  verbose : Bool := false
  command : Command
  deriving DecidableEq, Repr

namespace Invocation

/-- A port in decimal, perhaps with a sign. -/
def port? (text : String) : Option Nat :=
  -- A minus sign is accepted before a zero only.
  let (negative, digits) := match text.toList with
    | '-' :: digits => (true, digits)
    | '+' :: digits => (false, digits)
    | digits => (false, digits)
  if digits.isEmpty || !digits.all Char.isDigit then none
  else
    let port := Digits.ofValues 10 (digits.map fun c => c.toNat - '0'.toNat)
    if maxPort < port || (negative && port != 0) then none else some port

/-- An item written as a key, an equals sign and a text; the key is not empty. -/
def item? (text : String) : Option Parcel :=
  -- The first equals sign counts, so a body may hold further ones.
  match Split.first? '=' text.toList with
  | some (c :: key, body) => some ⟨String.ofList (c :: key), Utf8.encodeChars body⟩
  | _ => none

/-- Any text. -/
def anyText : String → Bool := fun _ => true

/-- A path, which is not empty. -/
def anyPath : String → Bool := fun path => path ≠ ""

/-- The parameters that every command takes. -/
def common : List Parameter :=
  [{ long := "config", short := some 'c', accepts := some anyPath },
    { long := "verbose", short := some 'v' }]

/-- The parameter that shows help. -/
def help : Parameter := { long := "help", short := some 'h' }

/-- The parameter that shows the version. -/
def version : Parameter := { long := "version", short := some 'V' }

/-- The parameters of each command. -/
def commands : List (String × List Parameter) :=
  [("server",
      [{ long := "port", short := some 'p', accepts := some fun text => (port? text).isSome },
        { long := "host", accepts := some anyText }]),
    ("client",
      [{ long := "server", short := some 's', accepts := some anyText },
        { long := "item", short := some 'i', accepts := some fun text => (item? text).isSome
          repeats := true },
        { long := "synchronic" }]),
    ("config",
      [{ long := "generate" },
        { long := "output", short := some 'o', accepts := some anyPath }]),
    ("info", [])]

/-- The command that shows help. -/
def helpCommand : String := "help"

/-- The level of a command line before any command. -/
def outer : Grammar where
  parameters := common
  commands := helpCommand :: commands.map (·.1)
  shows := [help, version]

/-- The level after a command. -/
def inner (parameters : List Parameter) : Grammar where
  parameters := parameters ++ common
  shows := [help]

/-- What comes of the command for help, which may name one command. -/
def readHelp : List String → Stop
  | [] => .shown
  | [name] => if outer.commands.contains name then .shown else .misused
  | _ => .misused

/-- The command of a name with what has been given to it. -/
def commandOf (name : String) (given : Given) : Command :=
  -- Values have been checked when they were given, so reading them again succeeds.
  if name = "server" then .server ((given.value? "port").bind port?) (given.value? "host")
  else if name = "client" then
    .client (given.value? "server") ((given.all "item").filterMap item?) (given.has "synchronic")
  else if name = "config" then .config (given.has "generate") (given.value? "output")
  else .info

/-- Reads a command line; what stands after a command goes before what stands in front of it. -/
def read (arguments : List String) : Except Stop Invocation := do
  -- The front is settled last, because a fault behind the command comes up first.
  let (front, rest) ← outer.read arguments {}
  match rest with
  | none => .error .misused
  | some (name, rest) =>
    if name = helpCommand then .error (readHelp rest)
    else
      let (back, _) ← (inner ((commands.lookup name).getD [])).read rest {}
      let back ← back.settle
      let front ← front.settle
      pure
        { config := (back.value? "config").or (front.value? "config")
          verbose := back.has "verbose" || front.has "verbose"
          command := commandOf name back }

end Invocation

end SentinelRounds
