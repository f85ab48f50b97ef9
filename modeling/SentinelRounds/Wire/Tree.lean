/-! Values of settings files and settings objects, before their types are known. -/

namespace SentinelRounds

/-- A parsed value of a settings file or object. -/
inductive Tree
  | null
  | flag (value : Bool)
  | integer (value : Int)
  /-- A number that is not written as an integer; no setting takes one. -/
  | real
  | text (value : String)
  /-- A date or a time; no single setting takes one. -/
  | moment
  | list (items : List Tree)
  /-- Keys are distinct and stand in the order in which they were first set. -/
  | table (entries : List (String × Tree))
  deriving Inhabited

namespace Tree

/-- What the notations for trees disagree on. -/
structure Dialect where
  /-- Whether a value stands for no content, after the name of an alternative. -/
  isUnit : Tree → Bool
  /-- Whether a record given as a list may have elements past its last field. -/
  surplus : Bool

/-- In objects, null stands for no content and lists have no surplus elements. -/
def Dialect.object : Dialect where
  isUnit
    | .null => true
    | _ => false
  surplus := false

/-- In files, an empty list or table stands for no content and surplus elements are passed over. -/
def Dialect.file : Dialect where
  isUnit
    | .list items => items.isEmpty
    | .table entries => entries.isEmpty
    | _ => false
  surplus := true

/-- How values of a type are taken from trees, and put into them; a missing value is left out. -/
structure Form (α : Type) where
  write : α → Option Tree
  read : Dialect → Tree → Option α

namespace Form

/-- A form read through a pair of conversions that undo each other. -/
def via {α β : Type} (form : Form α) (build : α → β) (view : β → α) : Form β where
  -- What is left out in one type is left out in the other.
  write value := form.write (view value)
  read dialect tree := (form.read dialect tree).map build

/-- A whole number below a bound. -/
def natural (bound : Nat) : Form Nat where
  write n := some (.integer n)
  read _
    -- Integers of a file have signs, even where a setting has none.
    | .integer n => if 0 ≤ n ∧ n < bound then some n.toNat else none
    | _ => none

/-- A truth value. -/
def flag : Form Bool where
  write value := some (.flag value)
  read _
    | .flag value => some value
    | _ => none

/-- A text. -/
def text : Form String where
  write value := some (.text value)
  read _
    | .text value => some value
    | _ => none

/-- A value that may be missing. -/
def optional {α : Type} (item : Form α) : Form (Option α) where
  write value := value.bind item.write
  read dialect
    -- Files have no null, so a missing value only shows as a missing entry.
    | .null => some none
    | tree => (item.read dialect tree).map some

/-- A sequence. -/
def list {α : Type} (item : Form α) : Form (List α) where
  write values := some (.list (values.filterMap item.write))
  read dialect
    | .list items => items.mapM (item.read dialect)
    | _ => none

/-- One of some alternatives by name, or a table of one name without content. -/
def choice {α : Type} (options : List α) (name : α → String) : Form α where
  write value := some (.text (name value))
  read dialect
    -- The table is how alternatives with content are written, and content may be empty.
    | .text chosen => options.find? fun value => name value == chosen
    | .table [(chosen, content)] =>
      if dialect.isUnit content then options.find? fun value => name value == chosen else none
    | _ => none

end Form

end Tree

end SentinelRounds
