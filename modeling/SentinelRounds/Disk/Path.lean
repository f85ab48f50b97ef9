import SentinelRounds.Text.Split

/-! Paths as they are written, and their parts. -/

namespace SentinelRounds

/-- A path. -/
structure Path where
  /-- Whether the path starts at the root rather than at the working directory. -/
  rooted : Bool
  /-- The parts between slashes that are not empty. -/
  parts : List String
  /-- Whether a slash follows the last part. -/
  slashed : Bool := false
  deriving DecidableEq, Repr

namespace Path

/-- The part of a directory that leads to itself. -/
def here : String := "."

/-- The part of a directory that leads to the one around it. -/
def up : String := ".."

/-- The path that a text says. -/
def ofText (text : String) : Path :=
  -- Slashes in a row are like one.
  { rooted := text.toList.head? = some '/'
    parts := ((Split.all '/' text.toList).filter (· ≠ [])).map String.ofList
    slashed := text.toList.getLast? = some '/' }

/-- The text that says a path. -/
def text (path : Path) : String :=
  -- The slash of the root does not count as one behind the last part.
  let root := if path.rooted then "/" else ""
  root ++ "/".intercalate path.parts ++ if path.slashed && !path.parts.isEmpty then "/" else ""

/--
The parts that count when paths are taken apart: a part that leads nowhere only counts at the start
of a path that is not rooted.
-/
def steps (path : Path) : List String :=
  match path.parts with
  | first :: rest =>
    let rest := rest.filter (· ≠ here)
    if path.rooted && first == here then rest else first :: rest
  | [] => []

/-- The path without its last part, if there is a part to leave out. -/
def parent? (path : Path) : Option Path :=
  -- The part around the working directory is the empty path.
  if path.steps.isEmpty then none else some ⟨path.rooted, path.steps.dropLast, false⟩

/-- Whether a path says nothing at all. -/
def isEmpty (path : Path) : Bool := !path.rooted && path.parts.isEmpty

end Path

end SentinelRounds
