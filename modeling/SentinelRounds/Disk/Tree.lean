import SentinelRounds.Bytes
import SentinelRounds.Depot.Keyed
import SentinelRounds.Disk.Path
import SentinelRounds.Text.Utf8

/-! A tree of files and directories, as far as one program looks at it. -/

namespace SentinelRounds

/-- What the system answers to a call that fails. -/
inductive DiskFault
  | notFound
  | notADirectory
  | isADirectory
  | alreadyExists
  /-- A text was read that is not UTF-8. -/
  | invalidData
  /-- A path holds a character that no name can have. -/
  | invalidInput
  /-- A name is too long. -/
  | invalidName
  deriving DecidableEq, Repr

namespace DiskFault

/-- The short name that tells failed calls apart. -/
def kind : DiskFault → String
  | .notFound => "NotFound"
  | .notADirectory => "NotADirectory"
  | .isADirectory => "IsADirectory"
  | .alreadyExists => "AlreadyExists"
  | .invalidData => "InvalidData"
  | .invalidInput => "InvalidInput"
  | .invalidName => "InvalidFilename"

/-- Whether the system words a fault in its own way. -/
def isSystem : DiskFault → Bool
  | .invalidData | .invalidInput => false
  | _ => true

/-- The wording of a fault. -/
def message : DiskFault → String
  | .notFound => "No such file or directory"
  | .notADirectory => "Not a directory"
  | .isADirectory => "Is a directory"
  | .alreadyExists => "File exists"
  | .invalidData => "stream did not contain valid UTF-8"
  | .invalidInput => "file name contained an unexpected NUL byte"
  | .invalidName => "File name too long"

end DiskFault

/-- A file with its content, or a directory. -/
inductive DiskEntry
  | file (content : Bytes)
  | directory
  deriving DecidableEq, Repr

/-- Everything on a disk but its root, under the names that lead there, and where a program works. -/
structure Disk where
  entries : Keyed (List String) DiskEntry := .empty
  working : List String := []
  deriving DecidableEq, Repr

namespace Disk

/-- The most bytes of a name. -/
def maxName : Nat := 255

/-- The most bytes of a path. -/
def maxPath : Nat := 4095

/-- The directory that one part of a path leads to. -/
def enter (disk : Disk) (place : List String) (part : String) : Except DiskFault (List String) :=
  -- The root has no directory around it, so it leads to itself.
  if part = Path.here then .ok place
  else if part = Path.up then .ok place.dropLast
  else if maxName < part.utf8ByteSize then .error .invalidName
  else
    match disk.entries.get? (place ++ [part]) with
    | some .directory => .ok (place ++ [part])
    | some (.file _) => .error .notADirectory
    | none => .error .notFound

/--
Where a path leads: to a name in a directory that exists, or to a directory that is named by no name
of its own.
-/
def locate (disk : Disk) (path : Path) : Except DiskFault (Option (List String)) := do
  -- Every part but the last has to be a directory that can be entered.
  if path.isEmpty then .error .notFound
  else if path.parts.any fun part => part.toList.contains '\x00' then .error .invalidInput
  else if maxPath < path.text.utf8ByteSize then .error .invalidName
  else
    let start := if path.rooted then [] else disk.working
    let place ← path.parts.dropLast.foldlM disk.enter start
    match path.parts.getLast? with
    | none => pure none
    | some last =>
      if last = Path.here ∨ last = Path.up then pure none else pure (some (place ++ [last]))

/-- A place, unless its own name is too long to look for. -/
def named (place : List String) : Except DiskFault (List String) :=
  if place.getLast?.any (maxName < ·.utf8ByteSize) then .error .invalidName else .ok place

/-- What a path leads to. -/
def find (disk : Disk) (path : Path) : Except DiskFault DiskEntry := do
  -- A slash behind a name asks for a directory.
  match ← disk.locate path with
  | none => pure .directory
  | some place =>
    match disk.entries.get? (← named place) with
    | none => .error .notFound
    | some .directory => pure .directory
    | some (.file content) => if path.slashed then .error .notADirectory else pure (.file content)

/-- Whether a path leads anywhere. -/
def exists? (disk : Disk) (path : Path) : Bool := (disk.find path).toOption.isSome

/-- Whether a path leads to a directory. -/
def isDirectory (disk : Disk) (path : Path) : Bool :=
  (disk.find path).toOption = some .directory

/-- The content of a file. -/
def read (disk : Disk) (path : Path) : Except DiskFault Bytes := do
  -- A directory has no content.
  match ← disk.find path with
  | .directory => .error .isADirectory
  | .file content => pure content

/-- The text of a file, if there is one that can be read as such. -/
def text? (disk : Disk) (path : String) : Option String :=
  match disk.read (.ofText path) with
  | .ok bytes => (Utf8.decode bytes).toOption
  | .error _ => none

/-- Makes a file of some content, in place of any other file. -/
def write (disk : Disk) (path : Path) (content : Bytes) : Except DiskFault Disk := do
  -- What has no name of its own is a directory.
  match ← disk.locate path with
  | none => .error .isADirectory
  | some place =>
    -- A name with a slash behind it is refused before it is looked for.
    if path.slashed then .error .isADirectory
    else
      let place ← named place
      if disk.entries.get? place = some .directory then .error .isADirectory
      else pure { disk with entries := disk.entries.insert place (.file content) }

/-- Makes a directory. -/
def makeDirectory (disk : Disk) (path : Path) : Except DiskFault Disk := do
  -- Files stand in the way as directories do.
  match ← disk.locate path with
  | none => .error .alreadyExists
  | some place =>
    let place ← named place
    if disk.entries.contains place then .error .alreadyExists
    else pure { disk with entries := disk.entries.insert place .directory }

/-- Makes a directory unless it exists. -/
def ensureDirectory (disk : Disk) (path : Path) : Except DiskFault Unit × Disk :=
  -- The fault is that of the attempt, not that of the look after it.
  match disk.makeDirectory path with
  | .ok disk => (.ok (), disk)
  | .error fault => (if disk.isDirectory path then .ok () else .error fault, disk)

/-- Makes a directory and every missing one on the way; those made before a fault stay. -/
def makeDirectories (disk : Disk) (path : Path) : (fuel : Nat) → Except DiskFault Unit × Disk
  -- Every step leaves out one part of the path, so the fuel is the number of parts.
  | 0 => (.ok (), disk)
  | fuel + 1 =>
    if path.isEmpty then (.ok (), disk)
    else
      match disk.ensureDirectory path with
      | (.error .notFound, disk) =>
        match path.parent? with
        | none => (.error .notFound, disk)
        | some parent =>
          match disk.makeDirectories parent fuel with
          | (.error fault, disk) => (.error fault, disk)
          | (.ok (), disk) => disk.ensureDirectory path
      | result => result

/-- Makes the directory that a path stands in, and every missing one on the way. -/
def makeWay (disk : Disk) (path : Path) : Except DiskFault Unit × Disk :=
  match path.parent? with
  | none => (.ok (), disk)
  | some parent => disk.makeDirectories parent (parent.parts.length + 1)

/-- A working directory with some files and directories in it, and every directory on the way. -/
def ofFiles (files : List (String × Option Bytes)) : Disk :=
  let root := "tmp"
  let start : Disk :=
    { entries := (Keyed.empty.insert [root] .directory).insert [root, "work"] .directory
      working := [root, "work"] }
  files.foldl (fun disk (text, content) =>
    let path := Path.ofText text
    match content with
    | none => (disk.makeDirectories path (path.parts.length + 1)).2
    | some content =>
      let disk := (disk.makeWay path).2
      match disk.write path content with
      | .ok disk => disk
      | .error _ => disk) start

end Disk

end SentinelRounds
