/-! Reading settings files from the front: the marks and the gaps between them. -/

namespace SentinelRounds

namespace Toml

/-- Takes a value off the front of a text, or refuses the text. -/
abbrev Reader := StateT (List Char) Option

/-- Whether a character is blank within a line. -/
def isBlank (c : Char) : Bool := c == ' ' || c == '\t'

/-- Whether a character may stand in a comment: all but controls, of which the tab may. -/
def isText (c : Char) : Bool := c == '\t' || (' ' ≤ c && c != '\x7f')

namespace Reader

/-- The next character, unread. -/
def peek : Reader (Option Char) := fun text => some (text.head?, text)

/-- Passes the next character. -/
def skip : Reader Unit := fun text => some ((), text.tail)

/-- The number of characters left. -/
def unread : Reader Nat := fun text => some (text.length, text)

/-- Passes a mark that has to come next. -/
def mark (expected : Char) : Reader Unit
  -- A mark at the end of the text is missing.
  | [] => none
  | c :: rest => if c = expected then some ((), rest) else none

/-- The longest front whose characters are all of a class. -/
def span (accepts : Char → Bool) : Reader (List Char) := fun text =>
  -- The front may be empty.
  some (text.takeWhile accepts, text.dropWhile accepts)

/-- Passes blanks. -/
def blanks : Reader Unit := fun text => some ((), text.dropWhile isBlank)

/-- Passes blanks, line ends and comments; a carriage return has to belong to a line end. -/
def gaps : (comment : Bool) → Reader Unit
  -- A comment lasts to the end of its line, and the text may end inside it.
  | _, [] => some ((), [])
  | comment, c :: rest =>
    if c = '\n' then gaps false rest
    else if c = '\r' then if rest.head? = some '\n' then gaps comment rest else none
    else if comment then if isText c then gaps true rest else none
    else if isBlank c then gaps false rest
    else if c = '#' then gaps true rest
    else some ((), c :: rest)

/-- Whether a character may follow the last one of a statement. -/
def isLineEnd : Option Char → Bool
  | none | some '#' | some '\n' | some '\r' => true
  | some _ => false

/-- Passes the blanks after a statement, with which its line has to end but for a comment. -/
def lineEnd : Reader Unit := do
  -- The line end itself is left to the gap before the next statement.
  blanks
  if isLineEnd (← peek) then pure () else failure

end Reader

end Toml

end SentinelRounds
