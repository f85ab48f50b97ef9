import SentinelRounds.Proofs.Config.Restoring

/-! A settings file that leaves some settings out is loaded with their standard values. -/

namespace SentinelRounds

/-- General settings of which each may be left out. -/
structure General.Given where
  hostId : Option String := none
  name : Option String := none
  verbose : Option Bool := none

/-- Network settings of which each may be left out. -/
structure Reach.Given where
  host : Option String := none
  port : Option UInt16 := none
  bindAddress : Option String := none
  nodelay : Option Bool := none

/-- The settings of a round of which each may be left out. -/
structure Settings.Given where
  headerCapacity : Option UInt64 := none
  messageCapacity : Option UInt64 := none
  batchSize : Option UInt64 := none
  runLength : Option UInt64 := none
  synchronic : Option Bool := none
  encoding : Option Encoding := none

/-- What a settings file sets: tables that may be left out, of settings that may be left out. -/
structure Configuration.Given where
  general : Option General.Given := none
  network : Option Reach.Given := none
  transfer : Option Settings.Given := none

namespace General.Given

/-- A table sets exactly the given settings; its other keys are unknown. -/
structure In (given : General.Given) (entries : List (String × Tree)) : Prop where
  hostId : entries.lookup "host_id" = given.hostId.map .text
  name : entries.lookup "name" = given.name.map .text
  verbose : entries.lookup "verbose" = given.verbose.map .flag

/-- The given settings, and others in place of those left out. -/
def completed (given : General.Given) (standard : General) : General where
  hostId := given.hostId.or standard.hostId
  name := given.name.getD standard.name
  verbose := given.verbose.getD standard.verbose

end General.Given

namespace Reach.Given

/-- A table sets exactly the given settings; its other keys are unknown. -/
structure In (given : Reach.Given) (entries : List (String × Tree)) : Prop where
  host : entries.lookup "host" = given.host.map .text
  port : entries.lookup "port" = given.port.map fun port => .integer port.toNat
  bindAddress : entries.lookup "bind_address" = given.bindAddress.map .text
  nodelay : entries.lookup "nodelay" = given.nodelay.map .flag

/-- The given settings, and others in place of those left out. -/
def completed (given : Reach.Given) (standard : Reach) : Reach where
  host := given.host.getD standard.host
  port := given.port.getD standard.port
  bindAddress := given.bindAddress.getD standard.bindAddress
  nodelay := given.nodelay.getD standard.nodelay

end Reach.Given

/-- A value names an encoding: as a text, or as a table of that one name without content. -/
def Encoding.NamedBy (encoding : Encoding) (tree : Tree) : Prop :=
  tree = .text encoding.name ∨
    ∃ content, (content = .list [] ∨ content = .table []) ∧
      tree = .table [(encoding.name, content)]

namespace Settings.Given

/-- A table sets exactly the given settings; its other keys are unknown. -/
structure In (given : Settings.Given) (entries : List (String × Tree)) : Prop where
  headerCapacity :
    entries.lookup "header_capacity" = given.headerCapacity.map fun size => .integer size.toNat
  messageCapacity :
    entries.lookup "message_capacity" = given.messageCapacity.map fun size => .integer size.toNat
  batchSize : entries.lookup "batch_size" = given.batchSize.map fun size => .integer size.toNat
  runLength : entries.lookup "run_length" = given.runLength.map fun size => .integer size.toNat
  synchronic : entries.lookup "synchronic" = given.synchronic.map .flag
  encoding : Option.Rel Encoding.NamedBy given.encoding (entries.lookup "encoding")

/-- The given settings, and others in place of those left out. -/
def completed (given : Settings.Given) (standard : Settings) : Settings where
  headerCapacity := given.headerCapacity.elim standard.headerCapacity UInt64.toNat
  messageCapacity := given.messageCapacity.elim standard.messageCapacity UInt64.toNat
  batchSize := given.batchSize.elim standard.batchSize UInt64.toNat
  runLength := given.runLength.elim standard.runLength UInt64.toNat
  synchronic := given.synchronic.getD standard.synchronic
  encoding := given.encoding.elim standard.encoding id

end Settings.Given

namespace Configuration.Given

/-- A table is left out, or sets exactly what is given of it. -/
def InTable {γ : Type} (sets : γ → List (String × Tree) → Prop) (given : Option γ)
    (entry : Option Tree) : Prop :=
  Option.Rel (fun given tree => ∃ entries, tree = .table entries ∧ sets given entries) given entry

/-- A file sets exactly what is given; its other tables are unknown. -/
structure In (given : Configuration.Given) (entries : List (String × Tree)) : Prop where
  general : InTable General.Given.In given.general (entries.lookup "general")
  network : InTable Reach.Given.In given.network (entries.lookup "network")
  transfer : InTable Settings.Given.In given.transfer (entries.lookup "transfer")

/-- The given settings, and others in place of those left out. -/
def completed (given : Configuration.Given) (standard : Configuration) : Configuration where
  general := given.general.elim standard.general (·.completed standard.general)
  network := given.network.elim standard.network (·.completed standard.network)
  transfer := given.transfer.elim standard.transfer (·.completed standard.transfer)

/-- Whether the general settings are given without the name of the host. -/
def nameless (given : Configuration.Given) : Bool :=
  given.general.any fun general => general.name.isNone

end Configuration.Given

/-- General settings are read with standard values in place of those left out, except for a name. -/
theorem General.read_given {given : General.Given} {entries : List (String × Tree)}
    (sets : given.In entries) (hostName : String) :
    General.schema.tree.read .file (.table entries) =
      if given.name.isNone then none else some (given.completed { name := hostName }) := by
  -- All depends on whether a name is given.
  cases named : given.name with
  | none =>
    -- Nothing else gives a name.
    refine Schema.read_record_eq_none fun values holds => ?_
    have own := holds.2.1
    rw [sets.name, named] at own
    cases own
  | some name =>
    refine Schema.read_record (given.hostId.or _, given.name.getD hostName, given.verbose.getD _, ())
      ⟨?_, ?_, ?_, trivial⟩
    · rw [sets.hostId]
      cases given.hostId <;> rfl
    · rw [sets.name, named]
      rfl
    · rw [sets.verbose]
      exact Schema.taken_getD (fun _ => rfl) _ given.verbose

/-- Network settings are read with their standard values in place of those left out. -/
theorem Reach.read_given {given : Reach.Given} {entries : List (String × Tree)}
    (sets : given.In entries) :
    Reach.schema.tree.read .file (.table entries) = some (given.completed {}) := by
  -- Every field takes its entry, or the standard value.
  refine Schema.read_record (given.host.getD _, given.port.getD _, given.bindAddress.getD _,
    given.nodelay.getD _, ()) ⟨?_, ?_, ?_, ?_, trivial⟩
  · rw [sets.host]
    exact Schema.taken_getD (fun _ => rfl) _ given.host
  · rw [sets.port]
    exact Schema.taken_getD Schema.read_word16 _ given.port
  · rw [sets.bindAddress]
    exact Schema.taken_getD (fun _ => rfl) _ given.bindAddress
  · rw [sets.nodelay]
    exact Schema.taken_getD (fun _ => rfl) _ given.nodelay

/-- A value that names an encoding is read as that encoding. -/
theorem Encoding.read_named {encoding : Encoding} {tree : Tree} (named : encoding.NamedBy tree) :
    schema.tree.read .file tree = some encoding := by
  rcases named with rfl | ⟨content, rfl | rfl, rfl⟩ <;> cases encoding <;> rfl

/-- The settings of a round are read with their standard values in place of those left out. -/
theorem Settings.read_given {given : Settings.Given} {entries : List (String × Tree)}
    (sets : given.In entries) :
    Settings.schema.tree.read .file (.table entries) = some (given.completed {}) := by
  -- The four sizes are read in the same way.
  have size (standard : Nat) (size : Option UInt64) :
      (Schema.natural 8 "usize").taken (some standard) .file
        (size.map fun size => .integer size.toNat) = some (size.elim standard UInt64.toNat) :=
    Schema.taken_elim (fun size => Schema.read_natural "usize" size.toNat_lt) standard size
  refine Schema.read_record (given.headerCapacity.elim _ _, given.messageCapacity.elim _ _,
    given.batchSize.elim _ _, given.runLength.elim _ _, given.synchronic.getD _,
    given.encoding.elim _ id, ()) ⟨?_, ?_, ?_, ?_, ?_, ?_, trivial⟩
  · rw [sets.headerCapacity]
    exact size _ _
  · rw [sets.messageCapacity]
    exact size _ _
  · rw [sets.batchSize]
    exact size _ _
  · rw [sets.runLength]
    exact size _ _
  · rw [sets.synchronic]
    exact Schema.taken_getD (fun _ => rfl) _ given.synchronic
  · exact Schema.taken_rel (fun _ _ named => Encoding.read_named named) _ sets.encoding

namespace Configuration

/-- The general settings of a file are taken with standard values in place of what it leaves out,
unless it leaves out only the name. -/
theorem taken_general_given {given : Option General.Given} {entry : Option Tree}
    (table : Given.InTable General.Given.In given entry) (hostName : String) :
    General.schema.taken (some { name := hostName }) .file entry =
      if given.any fun general => general.name.isNone then none
      else some (given.elim { name := hostName } (·.completed { name := hostName })) := by
  -- A table that is left out is taken from the standard.
  cases table with
  | none => rfl
  | some said =>
    obtain ⟨inner, rfl, sets⟩ := said
    exact General.read_given sets hostName

/-- What a file sets is read with standard values in place of what it leaves out, and only general
settings without a name are refused. -/
theorem read_given {given : Given} {entries : List (String × Tree)} (sets : given.In entries)
    (hostName : String) :
    (schema hostName).tree.read .file (.table entries) =
      if given.nameless then none else some (given.completed (standard hostName)) := by
  -- The general settings decide whether the others matter.
  have general := taken_general_given sets.general hostName
  cases nameless : given.nameless with
  | true =>
    rw [Given.nameless] at nameless
    rw [nameless, if_pos rfl] at general
    refine Schema.read_record_eq_none fun values holds => ?_
    cases general.symm.trans holds.1
  | false =>
    rw [Given.nameless] at nameless
    rw [nameless, if_neg Bool.false_ne_true] at general
    refine Schema.read_record (given.general.elim _ _, given.network.elim _ _,
      given.transfer.elim _ _, ()) ⟨general, ?_, ?_, trivial⟩
    · refine Schema.taken_rel (fun _ _ table => ?_) _ sets.network
      obtain ⟨inner, rfl, sets⟩ := table
      exact Reach.read_given sets
    · refine Schema.taken_rel (fun _ _ table => ?_) _ sets.transfer
      obtain ⟨inner, rfl, sets⟩ := table
      exact Settings.read_given sets

/-- A settings file whose tables set some of their keys is loaded with the standard value of every
other key, whatever unknown keys it has; it is refused if it has general settings without a name. -/
theorem load_given {disk : Disk} {path text : String} (stored : disk.text? path = some text)
    {entries : List (String × Tree)}
    (file : Toml.Document.read text.toList = some (.table entries)) {given : Given}
    (sets : given.In entries) (hostName : String) :
    load disk hostName path =
      if given.nameless then .error .parse else .ok (given.completed (standard hostName)) := by
  -- What the file says is known, so it only has to be read as settings.
  have read : ofText hostName text =
      if given.nameless then none else some (given.completed (standard hostName)) := by
    simp only [ofText, file, Option.bind_eq_bind, Option.bind_some]
    exact read_given sets hostName
  rw [load_eq stored, read]
  cases given.nameless <;> rfl

/-- A file that sets a port, a run length and an encoding, next to a key that no setting has. -/
theorem load_given_partial :
    let text :=
      "[network]\nport = 4000\ntimeout = 5\n\n[transfer]\nrun_length = 24\nencoding = \"json\"\n"
    let disk := Disk.ofFiles [("a.toml", some (Utf8.encode text))]
    let given : Given :=
      { network := some { port := some 4000 }
        transfer := some { runLength := some 24, encoding := some .json } }
    disk.text? "a.toml" = some text ∧
      (∃ entries, Toml.Document.read text.toList = some (.table entries) ∧ given.In entries) ∧
      load disk "here" "a.toml" = .ok { standard "here" with
        network := { port := 4000 }, transfer := { runLength := 24, encoding := .json } } := by
  -- The text is what is written of these tables.
  intro text disk given
  have stored : disk.text? "a.toml" = some text := Disk.text?_of_read rfl
  let tables : List (String × List (String × Tree)) :=
    [("network", [("port", .integer 4000), ("timeout", .integer 5)]),
      ("transfer", [("run_length", .integer 24), ("encoding", .text "json")])]
  have file : Toml.Document.read text.toList = some (Toml.Document.ofTables tables) :=
    Toml.Document.read_write (by decide) (by decide) (by decide)
  have sets : given.In (tables.map fun table => (table.1, .table table.2)) :=
    { general := .none
      network := .some ⟨_, rfl, rfl, rfl, rfl, rfl⟩
      transfer := .some ⟨_, rfl, rfl, rfl, rfl, rfl, rfl, .some (.inl rfl)⟩ }
  exact ⟨stored, ⟨_, file, sets⟩, load_given stored file sets "here"⟩

/-- General settings without a name are refused, although each of them but the name may be left out,
and so may the whole table. -/
theorem load_given_nameless :
    let text := "[general]\nverbose = true\n"
    let disk := Disk.ofFiles [("a.toml", some (Utf8.encode text))]
    let given : Given := { general := some { verbose := some true } }
    disk.text? "a.toml" = some text ∧
      (∃ entries, Toml.Document.read text.toList = some (.table entries) ∧ given.In entries) ∧
      load disk "here" "a.toml" = .error .parse := by
  -- The text is what is written of a table that has no name in it.
  intro text disk given
  have stored : disk.text? "a.toml" = some text := Disk.text?_of_read rfl
  have file : Toml.Document.read text.toList =
      some (Toml.Document.ofTables [("general", [("verbose", .flag true)])]) :=
    Toml.Document.read_write (by decide) (by decide) (by decide)
  have sets : given.In [("general", .table [("verbose", .flag true)])] :=
    { general := .some ⟨_, rfl, rfl, rfl, rfl⟩, network := .none, transfer := .none }
  have read : ofText "here" text = none := by
    simp only [ofText, file, Option.bind_eq_bind, Option.bind_some]
    rfl
  refine ⟨stored, ⟨_, file, sets⟩, ?_⟩
  rw [load_eq stored, read]

end Configuration

end SentinelRounds
