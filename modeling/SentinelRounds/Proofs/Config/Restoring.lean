import SentinelRounds.Config.Storage
import SentinelRounds.Proofs.Disk.Files
import SentinelRounds.Proofs.Text.Utf8
import SentinelRounds.Proofs.Toml.Document
import SentinelRounds.Proofs.Wire.Tables

/-! A settings file that has been saved is loaded as the configuration that it was saved from. -/

namespace SentinelRounds

namespace Schema

variable {dialect : Tree.Dialect}

/-- Texts are taken back. -/
theorem taken_text (fallback : Option String) (value : String) :
    text.taken fallback dialect (text.tree.write value) = some value := rfl

/-- Truth values are taken back. -/
theorem taken_flag (fallback : Option Bool) (value : Bool) :
    flag.taken fallback dialect (flag.tree.write value) = some value := rfl

/-- Texts that may be missing are taken back, also if they are. -/
theorem taken_optionalText (value : Option String) :
    (optional text).taken none dialect ((optional text).tree.write value) = some value := by
  cases value <;> rfl

/-- A whole number is read back if its type has it. -/
theorem read_natural {width n : Nat} (expected : String) (fits : n < Bytes.bound width) :
    (natural width expected).tree.read dialect (.integer n) = some n := by
  -- The number is neither negative nor too large.
  have range : 0 ≤ (n : Int) ∧ (n : Int) < Bytes.bound width := by omega
  simp only [natural, Tree.Form.natural, if_pos range, Int.toNat_natCast]

/-- A whole number is taken back if its type has it. -/
theorem taken_natural {width n : Nat} (expected : String) (fallback : Option Nat)
    (fits : n < Bytes.bound width) :
    (natural width expected).taken fallback dialect ((natural width expected).tree.write n) =
      some n :=
  read_natural expected fits

/-- Numbers of two bytes are read back. -/
theorem read_word16 (value : UInt16) :
    word16.tree.read dialect (.integer value.toNat) = some value := by
  -- Two bytes hold every such number.
  have fits : value.toNat < Bytes.bound 2 := value.toNat_lt
  simp only [word16, via, Tree.Form.via, read_natural "u16" fits, Option.map_some,
    UInt16.ofNat_toNat]

/-- Numbers of two bytes are taken back. -/
theorem taken_word16 (fallback : Option UInt16) (value : UInt16) :
    word16.taken fallback dialect (word16.tree.write value) = some value :=
  read_word16 value

end Schema

/-- The encoding of headers is taken back. -/
theorem Encoding.taken_schema {dialect : Tree.Dialect} (fallback : Option Encoding)
    (encoding : Encoding) :
    schema.taken fallback dialect (schema.tree.write encoding) = some encoding := by
  cases encoding <;> rfl

/-- The sizes among the settings of a round: its numbers without a bound of their own. -/
def Settings.sizes (settings : Settings) : List Nat :=
  [settings.headerCapacity, settings.messageCapacity, settings.batchSize, settings.runLength]

/-- A file that has the bytes of a text can be read as that text. -/
theorem Disk.text?_of_read {disk : Disk} {path text : String}
    (found : disk.read (.ofText path) = .ok (Utf8.encode text)) : disk.text? path = some text := by
  -- The bytes of a text are read back as that text.
  unfold text?
  simp only [found, Utf8.decode_encode]
  rfl

namespace Configuration

/-- The tables of a settings file, with every setting in them that there is. -/
def tables (configuration : Configuration) : List (String × List (String × Tree)) :=
  let { general, network, transfer } := configuration
  [("general",
      (general.hostId.map fun id => ("host_id", Tree.text id)).toList ++
        [("name", .text general.name), ("verbose", .flag general.verbose)]),
    ("network",
      [("host", .text network.host), ("port", .integer network.port.toNat),
        ("bind_address", .text network.bindAddress), ("nodelay", .flag network.nodelay)]),
    ("transfer",
      [("header_capacity", .integer transfer.headerCapacity),
        ("message_capacity", .integer transfer.messageCapacity),
        ("batch_size", .integer transfer.batchSize), ("run_length", .integer transfer.runLength),
        ("synchronic", .flag transfer.synchronic), ("encoding", .text transfer.encoding.name)])]

/-- These tables are what is written of a configuration. -/
theorem write_eq (hostName : String) (configuration : Configuration) :
    (schema hostName).tree.write configuration =
      some (Toml.Document.ofTables configuration.tables) := by
  -- An id that is missing has no entry.
  obtain ⟨⟨hostId, name, verbose⟩, network, transfer⟩ := configuration
  cases hostId <;> rfl

/-- General settings are taken back. -/
theorem taken_general (fallback : Option General) (general : General) :
    General.schema.taken fallback .file (General.schema.tree.write general) = some general := by
  -- The fields are taken back one by one.
  refine Schema.taken_record (by decide) ?_ rfl fallback
  exact ⟨Schema.taken_optionalText _, Schema.taken_text _ _, Schema.taken_flag _ _, trivial⟩

/-- Network settings are taken back. -/
theorem taken_reach (fallback : Option Reach) (network : Reach) :
    Reach.schema.taken fallback .file (Reach.schema.tree.write network) = some network := by
  -- The fields are taken back one by one.
  refine Schema.taken_record (by decide) ?_ rfl fallback
  exact ⟨Schema.taken_text _ _, Schema.taken_word16 _ _, Schema.taken_text _ _,
    Schema.taken_flag _ _, trivial⟩

/-- The settings of a round are taken back, if numbers of their type have its sizes. -/
theorem taken_settings (fallback : Option Settings) {settings : Settings}
    (fits : ∀ size ∈ settings.sizes, size < Bytes.bound 8) :
    Settings.schema.taken fallback .file (Settings.schema.tree.write settings) =
      some settings := by
  -- Each of the four sizes is small enough for its field.
  simp only [Settings.sizes, List.forall_mem_cons] at fits
  obtain ⟨header, message, batch, run, _⟩ := fits
  refine Schema.taken_record (by decide) ?_ rfl fallback
  exact ⟨Schema.taken_natural _ _ header, Schema.taken_natural _ _ message,
    Schema.taken_natural _ _ batch, Schema.taken_natural _ _ run, Schema.taken_flag _ _,
    Encoding.taken_schema _ _, trivial⟩

/-- The configuration is read back from these tables, if numbers of their type have its sizes. -/
theorem read_tables (hostName : String) {configuration : Configuration}
    (fits : ∀ size ∈ configuration.transfer.sizes, size < Bytes.bound 8) :
    (schema hostName).tree.read .file (Toml.Document.ofTables configuration.tables) =
      some configuration := by
  -- The three tables have different names, and each is taken back.
  have whole : (schema hostName).taken none .file ((schema hostName).tree.write configuration) =
      some configuration := by
    refine Schema.taken_record ?_ ?_ rfl none
    · exact show ["general", "network", "transfer"].Nodup by decide
    · exact ⟨taken_general _ _, taken_reach _ _, taken_settings _ fits, trivial⟩
  rwa [write_eq] at whole

/-- The tables have different names, and so have the entries of each. -/
theorem tables_distinct (configuration : Configuration) :
    (configuration.tables.map Prod.fst).Nodup ∧
      ∀ table ∈ configuration.tables, (table.2.map Prod.fst).Nodup := by
  -- The names are fixed, except that the id may be missing.
  obtain ⟨⟨hostId, name, verbose⟩, network, transfer⟩ := configuration
  refine ⟨show ["general", "network", "transfer"].Nodup by decide, ?_⟩
  simp only [tables, List.forall_mem_cons]
  refine ⟨?_, show ["host", "port", "bind_address", "nodelay"].Nodup by decide,
    show ["header_capacity", "message_capacity", "batch_size", "run_length", "synchronic",
      "encoding"].Nodup by decide, nofun⟩
  cases hostId with
  | none => exact show ["name", "verbose"].Nodup by decide
  | some id => exact show ["host_id", "name", "verbose"].Nodup by decide

/-- No key of a settings file needs quotes. -/
theorem bare_tables (configuration : Configuration) :
    ∀ key ∈ Toml.Document.keys configuration.tables,
      (Toml.Document.writeKey key).isSome = true := by
  -- All keys that can occur are checked at once.
  have all : ∀ key ∈ ["general", "host_id", "name", "verbose", "network", "host", "port",
      "bind_address", "nodelay", "transfer", "header_capacity", "message_capacity", "batch_size",
      "run_length", "synchronic", "encoding"], (Toml.Document.writeKey key).isSome = true := by
    decide
  obtain ⟨⟨hostId, name, verbose⟩, network, transfer⟩ := configuration
  cases hostId with
  | some id => exact all
  | none =>
    -- The id is the only key that can be missing.
    intro key member
    refine all key ?_
    rcases List.mem_cons.mp member with first | later
    · exact List.mem_cons.mpr (.inl first)
    · exact List.mem_cons_of_mem _ (List.mem_cons_of_mem _ later)

/-- A configuration has a written form if no size is too large for the integers of files. -/
theorem isSome_text? {configuration : Configuration} :
    configuration.text?.isSome = true ↔
      ∀ size ∈ configuration.transfer.sizes, size < Nat.pow 2 63 := by
  -- Texts, truth values and the port can always be written.
  have whole : configuration.text?.isSome =
      (Toml.Document.write (Toml.Document.ofTables configuration.tables)).isSome := by
    simp [text?, write_eq, Option.isSome_bind]
  have text (value : String) : (Toml.Document.writeValue (.text value)).isSome = true := rfl
  have flag (value : Bool) : (Toml.Document.writeValue (.flag value)).isSome = true := rfl
  have port : configuration.network.port.toNat < Nat.pow 2 63 :=
    Nat.lt_trans configuration.network.port.toNat_lt (by decide)
  rw [whole, Toml.Document.isSome_write configuration.bare_tables]
  obtain ⟨⟨hostId, name, verbose⟩, network, transfer⟩ := configuration
  -- Only the four sizes are in question, whether there is an id or not.
  cases hostId <;>
    simp only [tables, Settings.sizes, Option.map_none, Option.map_some, Option.toList_none,
      Option.toList_some, List.nil_append, List.cons_append, List.forall_mem_cons, text, flag,
      Toml.Document.isSome_writeNatural, port, List.not_mem_nil, false_implies, implies_true,
      and_true, true_and]

/-- A written configuration is read back on any host. -/
theorem ofText_text? {configuration : Configuration} {text : String}
    (written : configuration.text? = some text) (hostName : String) :
    ofText hostName text = some configuration := by
  -- What has a written form has no size that its field could not hold.
  have some_ : configuration.text?.isSome = true := by rw [written]; rfl
  have fits : ∀ size ∈ configuration.transfer.sizes, size < Bytes.bound 8 := fun size member =>
    Nat.lt_of_lt_of_le (isSome_text?.mp some_ size member) (by decide)
  simp only [text?, write_eq, Option.bind_eq_bind, Option.bind_some, Option.bind_eq_some_iff,
    Option.pure_def, Option.some.injEq] at written
  obtain ⟨chars, written, rfl⟩ := written
  have distinct := tables_distinct configuration
  have read := Toml.Document.read_write distinct.1 distinct.2 written
  simp only [ofText, String.toList_ofList, read, Option.bind_eq_bind, Option.bind_some]
  exact read_tables hostName fits

/-- A settings file is loaded as what its text says, or is refused. -/
theorem load_eq {disk : Disk} {path text : String} (stored : disk.text? path = some text)
    (hostName : String) :
    load disk hostName path =
      match ofText hostName text with
      | none => .error .parse
      | some configuration => .ok configuration := by
  -- A file with a text can be read, so it exists.
  unfold Disk.text? at stored
  split at stored
  · rename_i bytes read
    have decoded : Utf8.decode bytes = .ok text := by
      cases found : Utf8.decode bytes with
      | error fault => rw [found] at stored; cases stored
      | ok other => rw [found] at stored; cases stored; rfl
    have there : disk.exists? (.ofText path) = true := Disk.exists?_of_read read
    cases parsed : ofText hostName text <;>
      simp only [load, there, Bool.not_true, Bool.false_eq_true, if_false, read, decoded, parsed]
  · cases stored

/-- A settings file of a written configuration is loaded wherever it has been put. -/
theorem load_write {configuration : Configuration} {text : String}
    (form : configuration.text? = some text) {disk after : Disk} {path : String}
    (written : disk.write (.ofText path) (Utf8.encode text) = .ok after) (hostName : String) :
    load after hostName path = .ok configuration := by
  -- The file has the text that was written.
  have stored := Disk.text?_of_read (Disk.read_write written)
  rw [load_eq stored, ofText_text? form]

/-- A save fails for want of a written form, fails on the disk, or puts that form into a file. -/
theorem save_cases (disk : Disk) (configuration : Configuration) (path : String) :
    (configuration.text? = none ∧ save disk configuration path = (.error .serialize, disk)) ∨
      ∃ text, configuration.text? = some text ∧
        ((¬disk.Accepts (.ofText path) ∧
            ∃ fault after, save disk configuration path = (.error (.disk fault), after)) ∨
          disk.Accepts (.ofText path) ∧ ∃ after, save disk configuration path = (.ok (), after) ∧
            (disk.makeWay (.ofText path)).2.write (.ofText path) (Utf8.encode text) = .ok after) := by
  -- The written form is made before the disk is touched.
  cases form : configuration.text? with
  | none => exact .inl ⟨rfl, by unfold save; simp only [form]⟩
  | some text =>
    refine .inr ⟨text, rfl, ?_⟩
    -- First the way is made, then the file is put at its end.
    cases way : disk.makeWay (.ofText path) with
    | mk made after =>
      cases made with
      | error fault =>
        refine .inl ⟨fun accepts => ?_, fault, after, by unfold save; simp only [form, way]⟩
        have made := accepts.1
        rw [way] at made
        cases made
      | ok _ =>
        cases written : after.write (.ofText path) (Utf8.encode text) with
        | error fault =>
          refine .inl ⟨fun accepts => ?_, fault, after,
            by unfold save; simp only [form, way, written]⟩
          obtain ⟨last, put⟩ := accepts.2 (Utf8.encode text)
          rw [way] at put
          cases put.symm.trans written
        | ok last =>
          refine .inr ⟨⟨by rw [way], fun other => ?_⟩, last,
            by unfold save; simp only [form, way, written], rfl⟩
          obtain ⟨place, put⟩ := Disk.write_ok_of_write other written
          rw [way]
          exact ⟨_, put⟩

/-- A configuration that has been saved is loaded as it was, on any host. Nothing is saved of one
without a written form, which is one with a size too large for the integers of files, and then the
disk is left as it was; anything else is saved wherever the disk accepts a file. -/
theorem load_save (disk : Disk) (configuration : Configuration) (path : String) :
    (∀ after, save disk configuration path = (.ok (), after) →
      ∀ hostName, load after hostName path = .ok configuration) ∧
    (∀ after, save disk configuration path = (.error .serialize, after) → after = disk) ∧
    ((save disk configuration path).1 = .error .serialize ↔
      ∃ size ∈ configuration.transfer.sizes, Nat.pow 2 63 ≤ size) ∧
    ((save disk configuration path).1 = .ok () ↔
      (∀ size ∈ configuration.transfer.sizes, size < Nat.pow 2 63) ∧
        disk.Accepts (.ofText path)) := by
  -- Whether a configuration has a written form depends on its sizes.
  have large : configuration.text? = none ↔
      ∃ size ∈ configuration.transfer.sizes, Nat.pow 2 63 ≤ size := by
    rw [← Option.not_isSome_iff_eq_none, isSome_text?]
    simp
  have small : configuration.text?.isSome = true ↔
      ∀ size ∈ configuration.transfer.sizes, size < Nat.pow 2 63 := isSome_text?
  rw [← large, ← small]
  rcases save_cases disk configuration path with ⟨form, saved⟩ | ⟨text, form, saves⟩
  · simp [saved, form]
  · rcases saves with ⟨refused, fault, after, saved⟩ | ⟨accepts, after, saved, written⟩
    · simp [saved, form, refused]
    · have loads (hostName : String) : load after hostName path = .ok configuration :=
        load_write form written hostName
      simpa [saved, form, accepts] using loads

/-- A configuration whose texts need quotes of every style, and whose sizes are the extreme ones, is
saved under a directory that has to be made first, and loaded as it was; with one size more than the
largest, the disk is left as it was. -/
theorem load_save_intricate :
    let disk := Disk.ofFiles []
    let intricate : Configuration :=
      { general := { hostId := some "it's \"\"\"\n\\", name := "\x07\t'''", verbose := true }
        network := { host := "", port := 65535, bindAddress := "é\r\n", nodelay := false }
        transfer :=
          { headerCapacity := 0, messageCapacity := Nat.pow 2 63 - 1, batchSize := 1, runLength := 2
            synchronic := true, encoding := .json } }
    let oversized : Configuration :=
      { intricate with transfer := { messageCapacity := Nat.pow 2 63 } }
    (∃ after, save disk intricate "conf/a.toml" = (.ok (), after) ∧
      ∀ hostName, load after hostName "conf/a.toml" = .ok intricate) ∧
    save disk oversized "conf/a.toml" = (.error .serialize, disk) := by
  -- The disk accepts the path, so only the sizes decide.
  intro disk intricate oversized
  have accepts : disk.Accepts (.ofText "conf/a.toml") := ⟨rfl, fun content => ⟨_, rfl⟩⟩
  obtain ⟨loads, _, _, saves⟩ := load_save disk intricate "conf/a.toml"
  obtain ⟨_, keeps, refuses, _⟩ := load_save disk oversized "conf/a.toml"
  have saved := saves.mpr ⟨by decide, accepts⟩
  have refused := refuses.mpr ⟨Nat.pow 2 63, by decide, by decide⟩
  refine ⟨⟨_, Prod.ext saved rfl, loads _ (Prod.ext saved rfl)⟩, ?_⟩
  exact Prod.ext refused (keeps _ (Prod.ext refused rfl))

end Configuration

end SentinelRounds
