import SentinelRounds.Wire.Binary
import SentinelRounds.Wire.Json
import SentinelRounds.Wire.Tree

/-! Schemas: one description of a type from which all its encodings follow. -/

namespace SentinelRounds

/-- How values of a type are encoded. -/
structure Schema (α : Type) where
  binary : Binary.Layout α
  json : Json.Form α
  tree : Tree.Form α
  /-- The value a record takes for a missing field of this type. -/
  absent : Option α := none

namespace Schema

/-- A schema read through a pair of conversions that undo each other. -/
def via {α β : Type} (schema : Schema α) (build : α → β) (view : β → α) : Schema β where
  -- Every encoding is converted in the same way.
  binary := schema.binary.via build view
  json := schema.json.via build view
  tree := schema.tree.via build view
  absent := schema.absent.map build

/-- A whole number of `width` bytes, under the name messages give its type. -/
def natural (width : Nat) (expected : String) : Schema Nat where
  binary := .natural width
  json := .natural (Bytes.bound width) expected
  tree := .natural (Bytes.bound width)

/-- A byte. -/
def word8 : Schema UInt8 := (natural 1 "u8").via UInt8.ofNat UInt8.toNat

/-- A number of two bytes. -/
def word16 : Schema UInt16 := (natural 2 "u16").via UInt16.ofNat UInt16.toNat

/-- A number of four bytes. -/
def word32 : Schema UInt32 := (natural 4 "u32").via UInt32.ofNat UInt32.toNat

/-- A number of eight bytes. -/
def word64 : Schema UInt64 := (natural 8 "u64").via UInt64.ofNat UInt64.toNat

/-- A truth value. -/
def flag : Schema Bool where
  binary := .flag
  json := .flag
  tree := .flag

/-- A text. -/
def text : Schema String where
  binary := .text
  json := .text
  tree := .text

/-- A value that may be missing; a record may leave out its field. -/
def optional {α : Type} (item : Schema α) : Schema (Option α) where
  binary := .optional item.binary
  json := .optional item.json
  tree := .optional item.tree
  absent := some none

/-- A sequence. -/
def list {α : Type} (item : Schema α) : Schema (List α) where
  binary := .list item.binary
  json := .list item.json
  tree := .list item.tree

/-- One of some alternatives. -/
def choice {α : Type} [BEq α] (options : List α) (name : α → String) : Schema α where
  binary := .choice options
  json := .choice options name
  tree := .choice options name

/--
The fields of a record in their order, with the tuple of their types and the tuple of slots in which
they are gathered.
-/
inductive Fields : Type → Type → Type 1
  | done : Fields Unit Unit
  | field {α ρ σ : Type} (name : String) (schema : Schema α) (fallback : Option α)
      (rest : Fields ρ σ) : Fields (α × ρ) (Option α × σ)

namespace Fields

/-- The number of fields. -/
def count {ρ σ : Type} : Fields ρ σ → Nat
  -- Fields that may be missing count too.
  | .done => 0
  | .field _ _ _ rest => rest.count + 1

/-- The fields' values one after another. -/
def binary {ρ σ : Type} : Fields ρ σ → Binary.Layout ρ
  -- The names of the fields do not travel.
  | .done => .empty
  | .field _ schema _ rest => schema.binary.pair rest.binary

/-- The printed members of a record. -/
def printMembers {ρ σ : Type} : Fields ρ σ → ρ → List Bytes
  -- Every field is written, even one that could be left out.
  | .done, _ => []
  | .field name schema _ rest, (value, others) =>
    (Json.printText name ++ 0x3A :: schema.json.print value) :: rest.printMembers others

/-- Slots of which nothing has been read yet. -/
def vacant {ρ σ : Type} : Fields ρ σ → σ
  -- A slot tells a field that was not read from one that was read as its fallback.
  | .done => ()
  | .field _ _ _ rest => (none, rest.vacant)

open Json Json.Reader in
/-- Reads the member of the given key into its slot, or passes it if no field has that name. -/
def readMember {ρ σ : Type} (key : String) : Fields ρ σ → σ → Reader σ
  -- A repeated name is refused before its colon is looked for.
  | .done, _ => do
    readColon
    ignoreValue
  | .field name schema _ rest, (slot, others) =>
    if key = name then
      match slot with
      | some _ => failLoose (.repeatedField name)
      | none => do
        readColon
        let value ← schema.json.read
        pure (some value, others)
    else do
      let others ← rest.readMember key others
      pure (slot, others)

/-- The record once all members are read; a missing field takes what its schema leaves for it. -/
def complete {ρ σ : Type} : Fields ρ σ → σ → Except Json.Cause ρ
  | .done, _ => .ok ()
  | .field name schema fallback rest, (slot, others) =>
    -- A fallback of the field comes before what its type leaves for a missing one.
    match slot.or (fallback.or schema.absent) with
    | none => .error (.missingField name)
    | some value => (rest.complete others).map fun values => (value, values)

open Json Json.Reader in
/-- Reads the members of a record after its opening bracket. -/
def readTable {ρ σ : Type} (fields : Fields ρ σ) :
    (fuel : Nat) → (first : Bool) → σ → Reader ρ
  -- Every member has at least one byte, so the unread length is fuel enough.
  | 0, _, _ => fail .endInTable
  | fuel + 1, first, slots => do
    if ← nextKey first then
      skip
      let key ← readText
      let slots ← fields.readMember key slots
      readTable fields fuel false slots
    else
      match fields.complete slots with
      | .ok values => pure values
      | .error cause => failLoose cause

open Json Json.Reader in
/-- Reads the fields of a record that is written as a list; only a fallback fills a missing one. -/
def readRow {ρ σ : Type} (expected : String) : Fields ρ σ → (index : Nat) → Reader ρ
  -- Fields in a list have no names, so they stand in their order.
  | .done, _ => pure ()
  | .field _ schema fallback rest, index => do
    let value ←
      if ← nextElement (index = 0) then schema.json.read
      else
        match fallback with
        | some value => pure value
        | none => failLoose (.wrongLength index expected)
    let values ← readRow expected rest (index + 1)
    pure (value, values)

/-- A plural, unless there is exactly one. -/
def countText (count : Nat) : String :=
  if count = 1 then "1 element" else s!"{count} elements"

open Json Json.Reader in
/-- A record as a table of its fields; it may also be read from a list of them. -/
def json {ρ σ : Type} (expected : String) (fields : Fields ρ σ) : Json.Form ρ where
  print values := 0x7B :: (printRow (fields.printMembers values) ++ [0x7D])
  read := do
    let first ← peekValue
    if first = 0x5B then
      -- A fault without a place lies where the reading of the record stops.
      placed do
        skip
        enclosed (fields.readRow s!"{expected} with {countText fields.count}" 0) endList
    else if first = 0x7B then
      placed do
        skip
        let fuel ← unread
        enclosed (fields.readTable (fuel + 1) true fields.vacant) endTable
    else failKind expected

/-- The entries of a record that are not left out. -/
def writeEntries {ρ σ : Type} : Fields ρ σ → ρ → List (String × Tree)
  | .done, _ => []
  | .field name schema _ rest, (value, others) =>
    -- What has no tree has no entry either.
    match schema.tree.write value with
    | some tree => (name, tree) :: rest.writeEntries others
    | none => rest.writeEntries others

/-- The record whose fields stand in a table under their names. -/
def ofEntries {ρ σ : Type} (dialect : Tree.Dialect) (entries : List (String × Tree)) :
    Fields ρ σ → Option ρ
  | .done => some ()
  | .field name schema fallback rest => do
    let value ←
      -- Entries that are no field are passed over.
      match entries.lookup name with
      | some tree => schema.tree.read dialect tree
      | none => fallback.or schema.absent
    let values ← rest.ofEntries dialect entries
    pure (value, values)

/-- The record whose fields stand in a list; only a fallback fills a missing one. -/
def ofItems {ρ σ : Type} (dialect : Tree.Dialect) : Fields ρ σ → List Tree → Option ρ
  | .done, items => if items.isEmpty || dialect.surplus then some () else none
  | .field _ schema fallback rest, items => do
    let value ←
      -- Once the list is exhausted, every further field is missing.
      match items with
      | tree :: _ => schema.tree.read dialect tree
      | [] => fallback
    let values ← rest.ofItems dialect items.tail
    pure (value, values)

/--
A record as a table of its fields; it may also be read from a list of them, and a moment counts as a
table without any.
-/
def tree {ρ σ : Type} (fields : Fields ρ σ) : Tree.Form ρ where
  write values := some (.table (fields.writeEntries values))
  read dialect
    | .table entries => fields.ofEntries dialect entries
    | .list items => fields.ofItems dialect items
    -- A moment is handed over as a table whose one entry is no field.
    | .moment => fields.ofEntries dialect []
    | _ => none

end Fields

/-- A record of some fields, under the name messages give its type. -/
def record {α ρ σ : Type} (name : String) (fields : Fields ρ σ) (build : ρ → α) (view : α → ρ) :
    Schema α :=
  Schema.via
    { binary := fields.binary
      json := fields.json ("struct " ++ name)
      tree := fields.tree }
    build view

end Schema

end SentinelRounds
