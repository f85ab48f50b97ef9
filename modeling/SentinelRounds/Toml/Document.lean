import SentinelRounds.Toml.Value

/-! Whole settings files: their statements, read and written. -/

namespace SentinelRounds

namespace Toml

open Reader

/-- One statement of a file. -/
inductive Statement
  /-- Entries after this one belong to the named table. -/
  | table (path : List String)
  /-- Entries after this one belong to a new table among those of that name. -/
  | row (path : List String)
  | entry (path : List String) (tree : Tree)
  deriving Inhabited

namespace Statement

/-- Reads one statement. -/
def read : Reader Statement := do
  -- Two brackets in a row open a row, one opens a table.
  if (← peek) = some '[' then
    skip
    if (← peek) = some '[' then
      skip
      let path ← key maxDepth
      mark ']'
      mark ']'
      pure (.row path)
    else
      let path ← key maxDepth
      mark ']'
      pure (.table path)
  else
    let path ← key maxDepth
    mark '='
    blanks
    let tree ← value maxDepth
    pure (.entry path tree)

/-- Reads statements, each of which ends its line, up to the end of the text. -/
def readAll : (fuel : Nat) → Reader (List Statement)
  -- Every statement has at least one character, so the length of the text is fuel enough.
  | 0 => failure
  | fuel + 1 => do
    gaps false
    if (← peek).isNone then pure []
    else
      let statement ← read
      lineEnd
      let others ← readAll fuel
      pure (statement :: others)

end Statement

/-- The entries read so far, and the path of the table that the next ones belong to. -/
structure Draft where
  entries : Entries := []
  path : List String := []

namespace Draft

/-- Changes the table at the end of a path. -/
def change (draft : Draft) (path : List String) (change : Entries.Change) : Option Draft := do
  -- Tables on the way that no statement has named are implied.
  let entries ← Entries.follow .implied change path .stated draft.entries
  pure { draft with entries }

/-- Goes on by one statement, which must not contradict those before it. -/
def step (draft : Draft) : Statement → Option Draft
  -- Only the last part of a header is stated by it.
  | .table path => do
    let last ← path.getLast?
    let draft ← draft.change path.dropLast (Entries.state last)
    pure { draft with path }
  | .row path => do
    let last ← path.getLast?
    let draft ← draft.change path.dropLast (Entries.stateRow last)
    pure { draft with path }
  | .entry path tree => draft.change draft.path (addEntry path tree)

end Draft

namespace Document

/-- The text without the mark that some editors put in front. -/
def dropByteOrderMark : List Char → List Char
  | '\uFEFF' :: rest => rest
  | text => text

/-- The table that a text stands for. -/
def read (text : List Char) : Option Tree := do
  let text := dropByteOrderMark text
  let (statements, _) ← Statement.readAll (text.length + 1) text
  let draft ← statements.foldlM Draft.step {}
  pure (.table (Entries.trees draft.entries))

/-- The written form of a key without quotes. -/
def writeKey (key : String) : Option (List Char) :=
  -- Keys that would need quotes do not occur in a configuration, so they are refused.
  let text := key.toList
  if text.isEmpty || !text.all isBare then none else some text

/-- The written form of a value without brackets. -/
def writeValue : Tree → Option (List Char)
  -- Negative integers have their sign before the digits.
  | .flag value => some (if value then ['t', 'r', 'u', 'e'] else ['f', 'a', 'l', 's', 'e'])
  | .integer n =>
    if Scalar.fits n then
      some (if n < 0 then '-' :: Nat.toDigits 10 n.natAbs else Nat.toDigits 10 n.natAbs)
    else none
  | .text value => some (Quoted.encode value.toList)
  | _ => none

/-- The line of an entry. -/
def writeEntry (entry : String × Tree) : Option (List Char) := do
  let key ← writeKey entry.1
  let value ← writeValue entry.2
  pure (key ++ [' ', '=', ' '] ++ value ++ ['\n'])

/-- A table under its header. -/
def writeTable (entry : String × Tree) : Option (List Char) := do
  let key ← writeKey entry.1
  -- A configuration has tables at its top level and none inside them.
  match entry.2 with
  | .table entries => do
    let lines ← entries.mapM writeEntry
    pure (['['] ++ key ++ [']', '\n'] ++ lines.flatten)
  | _ => none

/--
A text that stands for a table of tables, with an empty line between them; values that files have no
form for are refused.
-/
def write : Tree → Option (List Char)
  | .table entries => do
    let tables ← entries.mapM writeTable
    pure (['\n'].intercalate tables)
  | _ => none

end Document

end Toml

end SentinelRounds
