import SentinelRounds.Round.Receive
import SentinelRounds.Proofs.Wire.Record

/-! Which headers can be answered, and that they read back as they were sent. -/

namespace SentinelRounds

namespace Descriptor

/-- An item that can be received: it has a key and at least one chunk. -/
structure Answerable (item : Descriptor) : Prop where
  keyed : item.key ≠ ""
  filled : item.chunks ≠ 0

/-- What an announced item lacks; a missing key counts before missing chunks. -/
inductive Lacks (item : Descriptor) : ContractFault → Prop
  | key (unnamed : item.key = "") : Lacks item .noKey
  | chunks (named : item.key ≠ "") (empty : item.chunks = 0) : Lacks item (.noChunks item.key)

end Descriptor

namespace Header

/-- A header that can be answered. -/
structure Answerable (header : Header) : Prop where
  version : header.version = protocolVersion
  counted : header.itemsCount.toNat = header.items.length
  items : ∀ item ∈ header.items, item.Answerable

/-- Why a header cannot be answered; the first reason counts. -/
inductive Violates (header : Header) : RoundFault → Prop
  | version (differs : header.version ≠ protocolVersion) :
    Violates header (.versionMismatch protocolVersion header.version)
  | count (current : header.version = protocolVersion)
      (differs : header.itemsCount.toNat ≠ header.items.length) :
    Violates header (.contract (.countMismatch header.itemsCount header.items.length))
  | item {before later : List Descriptor} {item : Descriptor} {fault : ContractFault}
      (current : header.version = protocolVersion)
      (counted : header.itemsCount.toNat = header.items.length)
      (announced : header.items = before ++ item :: later)
      (sound : ∀ earlier ∈ before, earlier.Answerable) (lacks : item.Lacks fault) :
    Violates header (.contract fault)

/-- The check of the items passes just when each of them can be received. -/
theorem checkItems_eq_ok_iff {items : List Descriptor} :
    checkItems items = .ok () ↔ ∀ item ∈ items, item.Answerable := by
  -- The items are checked one after the other.
  induction items with
  | nil => exact ⟨fun _ _ => nofun, fun _ => rfl⟩
  | cons item items ih =>
    rw [List.forall_mem_cons, ← ih, checkItems]
    by_cases unnamed : item.key = ""
    · rw [if_pos unnamed]
      exact ⟨nofun, fun sound => absurd unnamed sound.1.keyed⟩
    by_cases empty : item.chunks = 0
    · rw [if_neg unnamed, if_pos empty]
      exact ⟨nofun, fun sound => absurd empty sound.1.filled⟩
    · rw [if_neg unnamed, if_neg empty]
      exact ⟨fun passed => ⟨⟨unnamed, empty⟩, passed⟩, And.right⟩

/-- The check of the items reports what the first item lacks that cannot be received. -/
theorem checkItems_eq_error_iff {items : List Descriptor} {fault : ContractFault} :
    checkItems items = .error fault ↔ ∃ before item later, items = before ++ item :: later ∧
      (∀ earlier ∈ before, earlier.Answerable) ∧ item.Lacks fault := by
  -- The first item that cannot be received ends the check.
  constructor
  · intro failed
    induction items with
    | nil => cases failed
    | cons item items ih =>
      rw [checkItems] at failed
      split at failed
      · rename_i unnamed
        cases failed
        exact ⟨[], item, items, rfl, nofun, .key unnamed⟩
      split at failed
      · rename_i named empty
        cases failed
        exact ⟨[], item, items, rfl, nofun, .chunks named empty⟩
      · rename_i named filled
        obtain ⟨before, other, later, rfl, sound, lacks⟩ := ih failed
        exact ⟨item :: before, other, later, rfl,
          List.forall_mem_cons.mpr ⟨⟨named, filled⟩, sound⟩, lacks⟩
  · rintro ⟨before, item, later, rfl, sound, lacks⟩
    -- The items before it are passed over one by one.
    induction before with
    | nil =>
      cases lacks with
      | key unnamed => exact if_pos unnamed
      | chunks named empty => exact (if_neg named).trans (if_pos empty)
    | cons first before ih =>
      obtain ⟨fine, sound⟩ := List.forall_mem_cons.mp sound
      exact (if_neg fine.keyed).trans ((if_neg fine.filled).trans (ih sound))

/-- With version and count in order, it is the items that are checked. -/
theorem check_of_counted {header : Header} (current : header.version = protocolVersion)
    (counted : header.itemsCount.toNat = header.items.length) :
    header.check = (checkItems header.items).mapError .contract := by
  -- The other two tests are passed.
  rw [check, if_neg (· current), if_neg (· counted)]
  cases checkItems header.items <;> rfl

/-- The check passes just the headers that can be answered. -/
theorem check_eq_ok_iff {header : Header} : header.check = .ok () ↔ header.Answerable := by
  -- The version comes first, then the count, and then the items.
  by_cases current : header.version = protocolVersion
  · by_cases counted : header.itemsCount.toNat = header.items.length
    · have items := @checkItems_eq_ok_iff header.items
      rw [check_of_counted current counted]
      cases checked : checkItems header.items with
      | ok => exact ⟨fun _ => ⟨current, counted, items.mp checked⟩, fun _ => rfl⟩
      | error fault =>
        rw [checked] at items
        exact ⟨nofun, fun sound => nomatch items.mpr sound.items⟩
    · rw [check, if_neg (· current), if_pos counted]
      exact ⟨nofun, fun sound => absurd sound.counted counted⟩
  · rw [check, if_pos current]
    exact ⟨nofun, fun sound => absurd sound.version current⟩

/-- The check reports the first reason why a header cannot be answered. -/
theorem check_eq_error_iff {header : Header} {fault : RoundFault} :
    header.check = .error fault ↔ header.Violates fault := by
  -- The version comes first, then the count, and then the items.
  constructor
  · intro failed
    by_cases current : header.version = protocolVersion
    · by_cases counted : header.itemsCount.toNat = header.items.length
      · rw [check_of_counted current counted] at failed
        cases checked : checkItems header.items with
        | ok =>
          rw [checked] at failed
          -- The items are reached only if nothing is wrong before them.
          cases failed
        | error fault =>
          rw [checked] at failed
          cases failed
          obtain ⟨before, item, later, announced, sound, lacks⟩ :=
            checkItems_eq_error_iff.mp checked
          exact .item current counted announced sound lacks
      · rw [check, if_neg (· current), if_pos counted] at failed
        cases failed
        exact .count current counted
    · rw [check, if_pos current] at failed
      cases failed
      exact .version current
  · intro violates
    -- Each violation is the first test that fails.
    cases violates with
    | version differs => exact if_pos differs
    | count current differs => exact (if_neg (· current)).trans (if_pos differs)
    | item current counted announced sound lacks =>
      rw [check_of_counted current counted,
        checkItems_eq_error_iff.mpr ⟨_, _, _, announced, sound, lacks⟩]
      rfl

end Header

/-- A whole print is decoded. -/
theorem Json.Form.decode_print {α : Type} {form : Json.Form α} {value : α}
    (restores : form.Restores value) : form.decode (form.print value) = .ok value := by
  -- Nothing is left after the print.
  have reads := restores.reads [] trivial
  rw [List.append_nil] at reads
  obtain ⟨after, reached⟩ := reads ⟨1, 0⟩
  simp only [Json.Form.decode, Json.Cursor.ofBytes, Bind.bind, EStateM.bind, reached]
  rfl

/-- A value is decoded as it was encoded, if its binary encoding is not too long to be counted. -/
theorem Encoding.decode_encode {α : Type} {schema : Schema α} (sound : schema.Sound)
    (encoding : Encoding) {value : α}
    (counted : (encoding.encode schema value).length < UInt64.size) :
    encoding.decode schema (encoding.encode schema value) = .ok value := by
  -- Only binary lengths have to be counted.
  cases encoding with
  | binary =>
    have restored := sound.binary value counted []
    rw [List.append_nil] at restored
    simp only [decode, encode, restored]
  | json => simp only [decode, encode, Json.Form.decode_print (sound.json value)]

/-- Identities are restored. -/
theorem Identity.sound_schema : Identity.schema.Sound :=
  Schema.sound_record (by decide) ⟨Schema.sound_text, Schema.sound_text, trivial⟩ fun _ => rfl

/-- Descriptors are restored. -/
theorem Descriptor.sound_schema : Descriptor.schema.Sound :=
  Schema.sound_record (by decide)
    ⟨Schema.sound_text, Schema.sound_word64, Schema.sound_word32, trivial⟩ fun _ => rfl

/-- A descriptor takes space in the binary encoding. -/
theorem Descriptor.put_ne_nil (descriptor : Descriptor) :
    Descriptor.schema.binary.put descriptor ≠ [] := by
  -- It starts with the eight bytes of the length of its key.
  intro empty
  have lengths := congrArg List.length empty
  simp only [Descriptor.schema, Schema.record, Schema.via, Binary.Layout.via,
    Schema.Fields.binary, Binary.Layout.pair, Schema.text, Binary.Layout.text,
    List.length_append, Bytes.length_ofNat, List.length_nil] at lengths
  omega

/-- An encoded header has at least as many bytes as it announces items. -/
theorem Encoding.length_items_le (encoding : Encoding) (header : Header) :
    header.items.length ≤ (encoding.encode Header.schema header).length := by
  -- Both encodings write the items one after the other.
  cases encoding with
  | binary =>
    -- Each item takes space, and there is more in a header than its items.
    have solid := Bytes.length_le_flatMap Descriptor.put_ne_nil header.items
    simp only [Encoding.encode, Header.schema, Schema.record, Schema.via, Binary.Layout.via,
      Schema.Fields.binary, Binary.Layout.pair, Schema.list, Binary.Layout.list,
      List.length_append]
    omega
  | json =>
    -- The items are the third member of the record.
    have printed : ∃ first second others, encode .json Header.schema header = 0x7B ::
        (Json.printRow (first :: second :: (Json.printText "data" ++ 0x3A ::
          (Json.Form.list Descriptor.schema.json).print header.items) :: others) ++ [0x7D]) :=
      ⟨_, _, _, rfl⟩
    obtain ⟨first, second, others, printed⟩ := printed
    have items := Json.Form.length_le_printList Descriptor.schema.json header.items
    generalize (Json.Form.list Descriptor.schema.json).print header.items = list at printed items
    have third : Json.printText "data" ++ 0x3A :: list ∈
        first :: second :: (Json.printText "data" ++ 0x3A :: list) :: others := by
      simp
    have part := Json.Form.length_le_printRow third
    rw [printed, List.length_cons, List.length_append]
    rw [List.length_append, List.length_cons] at part
    omega

/-- Headers are restored. -/
theorem Header.sound_schema : Header.schema.Sound :=
  Schema.sound_record (by decide)
    ⟨Schema.sound_word32, Identity.sound_schema,
      Descriptor.sound_schema.list Descriptor.put_ne_nil, Schema.sound_word32, Schema.sound_word64,
      Schema.sound_flag, Schema.sound_flag, Schema.sound_flag, Schema.sound_word32,
      Schema.sound_optionalText, trivial⟩
    fun _ => rfl

/-- What is read as a header is decoded as it, and passes its check. -/
theorem Round.readHeader_eq_ok_iff {encoding : Encoding} {frame : Bytes} {header : Header} :
    readHeader encoding frame = .ok header ↔
      encoding.decode Header.schema frame = .ok header ∧ header.check = .ok () := by
  -- The frame is decoded first, and then the header is checked.
  constructor
  · intro read
    unfold readHeader at read
    split at read
    · cases read
    rename_i decoded
    split at read
    · cases read
    · rename_i passed
      cases read
      exact ⟨decoded, passed⟩
  · rintro ⟨decoded, passed⟩
    rw [readHeader, decoded]
    simp only [passed]

/-- A header that can be answered is read from the frame it was sent in. -/
theorem Round.readHeader_encode {encoding : Encoding} {header : Header}
    (counted : (encoding.encode Header.schema header).length < UInt64.size)
    (answerable : header.check = .ok ()) :
    Round.readHeader encoding (encoding.encode Header.schema header) = .ok header :=
  readHeader_eq_ok_iff.mpr
    ⟨Encoding.decode_encode Header.sound_schema encoding counted, answerable⟩

end SentinelRounds
