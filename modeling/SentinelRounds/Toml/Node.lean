import SentinelRounds.Wire.Tree

/-! The tables of a settings file while it is being read: what may still be added to them. -/

namespace SentinelRounds

namespace Toml

/-- How a table came into a file. -/
inductive Origin
  /-- By a header, or as an inline table. -/
  | stated
  /-- On the way to a table that a header names. -/
  | implied
  /-- On the way to an entry whose key has several parts. -/
  | dotted
  deriving DecidableEq, Repr

/-- What stands under a key. -/
inductive Node
  | value (tree : Tree)
  | table (origin : Origin) (entries : List (String × Node))
  /-- Tables that are stated under one name, the latest one last. -/
  | tables (rows : List (List (String × Node)))

/-- The entries of a table under distinct keys, in the order in which they were added. -/
abbrev Entries := List (String × Node)

mutual

/-- The value that stands under a key once the file has been read. -/
def Node.tree : Node → Tree
  -- How a table came into the file does not matter any more.
  | .value tree => tree
  | .table _ entries => .table (Entries.trees entries)
  | .tables rows => .list (Entries.rowTrees rows)

/-- The entries of a table once the file has been read. -/
def Entries.trees : List (String × Node) → List (String × Tree)
  | [] => []
  | (key, node) :: rest => (key, node.tree) :: Entries.trees rest

/-- The tables under one name once the file has been read. -/
def Entries.rowTrees : List (List (String × Node)) → List Tree
  | [] => []
  | row :: rest => .table (Entries.trees row) :: Entries.rowTrees rest

end

namespace Entries

/-- Puts a node in place of the one under a key, or behind all others if there is none. -/
def set (key : String) (node : Node) : Entries → Entries
  -- A node keeps its place when it is replaced.
  | [] => [(key, node)]
  | (other, held) :: rest =>
    if key = other then (key, node) :: rest else (other, held) :: set key node rest

/-- A change of the entries of a table, which may depend on how the table came into the file. -/
abbrev Change := Origin → Entries → Option Entries

/--
The change of the table at the end of a path.

Tables that are missing on the way are made; a dotted key does not lead into a stated table, and no
path leads through a value.
-/
def follow (way : Origin) (change : Change) : List String → Change
  -- A header that leads through several tables means the latest one.
  | [], origin, entries => change origin entries
  | key :: path, _, entries =>
    match entries.lookup key with
    | none => do
      let inner ← follow way change path way []
      pure (set key (.table way inner) entries)
    | some (.value _) => none
    | some (.table origin inner) =>
      if way = .dotted ∧ origin = .stated then none
      else do
        let inner ← follow way change path origin inner
        pure (set key (.table origin inner) entries)
    | some (.tables rows) => do
      let row ← rows.getLast?
      let row ← follow way change path .stated row
      pure (set key (.tables (rows.dropLast ++ [row])) entries)

/-- Adds a value under a key that is still free. -/
def put (key : String) (tree : Tree) : Change := fun _ entries =>
  -- No entry is ever replaced by another.
  if (entries.lookup key).isSome then none else some (set key (.value tree) entries)

/-- Adds a value under a key of several parts, which lead through tables of its own kind only. -/
def putAt (path : List String) (key : String) (tree : Tree) : Change :=
  follow .dotted (fun origin entries =>
    if path ≠ [] ∧ origin ≠ .dotted then none else put key tree origin entries) path

/-- States a table, which may have been implied before. -/
def state (key : String) : Change := fun _ entries =>
  -- A table can be stated once, and only if no dotted key has made it.
  match entries.lookup key with
  | none => some (set key (.table .stated []) entries)
  | some (.table .implied inner) => some (set key (.table .stated inner) entries)
  | some _ => none

/-- States one more table under a name that stands for several. -/
def stateRow (key : String) : Change := fun _ entries =>
  -- Rows are added only to what rows have made.
  match entries.lookup key with
  | none => some (set key (.tables [[]]) entries)
  | some (.tables rows) => some (set key (.tables (rows ++ [[]])) entries)
  | some _ => none

end Entries

end Toml

end SentinelRounds
