import SentinelRounds.Toml.Node
import SentinelRounds.Toml.Quoted
import SentinelRounds.Toml.Scalar

/-! Keys and values of settings files. -/

namespace SentinelRounds

namespace Toml

open Reader

/-- The most parts of a key, and the most brackets around a value. -/
def maxDepth : Nat := 79

/-- Whether a character may belong to a key without quotes. -/
def isBare (c : Char) : Bool := c.isAlphanum || c == '-' || c == '_'

/-- Reads one part of a key; a part in quotes stays on its line. -/
def keyPart : Reader String := do
  -- Keys are never quoted by three quotes.
  match ← peek with
  | some '"' => do
    skip
    String.ofList <$> Quoted.body .basic .apart
  | some '\'' => do
    skip
    String.ofList <$> Quoted.body .literal .apart
  | _ => do
    let part ← span isBare
    if part.isEmpty then failure else pure (String.ofList part)

/-- Reads a key, which has points between its parts and blanks around them. -/
def key : (limit : Nat) → Reader (List String)
  | 0 => failure
  | limit + 1 => do
    -- Points and the blanks around them belong to no part.
    blanks
    let part ← keyPart
    blanks
    if (← peek) = some '.' then
      skip
      let parts ← key limit
      pure (part :: parts)
    else pure [part]

/--
Adds an entry to a table, in which the entry before the last part of a key has to be one that dotted
keys have made.
-/
def addEntry (path : List String) (tree : Tree) : Entries.Change := fun origin entries => do
  let last ← path.getLast?
  Entries.putAt path.dropLast last tree origin entries

/-- Reads the items of a list and its closing bracket; a comma may follow the last item. -/
def items (item : Reader Tree) : (fuel : Nat) → Reader (List Tree)
  | 0 => failure
  | fuel + 1 => do
    -- An empty list has nothing between its brackets but gaps.
    if (← peek) = some ']' then
      skip
      pure []
    else
      let first ← item
      gaps false
      if (← peek) = some ',' then
        skip
        gaps false
        let others ← items item fuel
        pure (first :: others)
      else
        mark ']'
        pure [first]

/-- Reads the entries of an inline table and its closing bracket, and adds them to others. -/
def inlineEntries (item : Reader Tree) : (fuel : Nat) → Entries → Reader Entries
  | 0, _ => failure
  | fuel + 1, entries => do
    -- A comma may not follow the last entry, unlike in a list.
    let path ← key maxDepth
    mark '='
    blanks
    let tree ← item
    blanks
    let entries ← StateT.lift (addEntry path tree .stated entries)
    if (← peek) = some ',' then
      skip
      inlineEntries item fuel entries
    else
      mark '}'
      pure entries

/-- Reads a list whose opening bracket comes next. -/
def list (item : Reader Tree) : Reader Tree := do
  skip
  gaps false
  let found ← items item ((← unread) + 1)
  pure (.list found)

/-- Reads an inline table whose opening bracket comes next. -/
def inlineTable (item : Reader Tree) : Reader Tree := do
  skip
  blanks
  if (← peek) = some '}' then
    skip
    pure (.table [])
  else
    let entries ← inlineEntries item ((← unread) + 1) []
    pure (.table (Entries.trees entries))

/-- Reads a value that has at most `depth` brackets around its parts. -/
def value : (depth : Nat) → Reader Tree
  -- With no depth left a bracket is refused like any other stray character.
  | 0 => plain
  | depth + 1 => do
    match ← peek with
    | some '[' => list (value depth)
    | some '{' => inlineTable (value depth)
    | _ => plain
where
  /-- Reads a value without brackets. -/
  plain : Reader Tree := do
    match ← peek with
    | some '"' | some '\'' => Tree.text <$> Quoted.read
    | _ => Scalar.read

end Toml

end SentinelRounds
