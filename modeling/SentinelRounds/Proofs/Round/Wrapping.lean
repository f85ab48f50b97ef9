import SentinelRounds.Proofs.Round.Sending

/-! Messages whose number of items wraps around to zero in the word that a header has for it. -/

namespace SentinelRounds

/-- Content at most doubles when it is escaped, and gets a guard. -/
theorem Escape.length_encode_le_double (runLength : Nat) (content : Bytes) :
    (encode runLength content).length ≤ 2 * content.length + 1 := by
  -- There is no more than one escape for each byte.
  have most := length_encode_le runLength content
  have shared := Nat.div_le_self content.length (limit runLength)
  unfold maxLength at most
  omega

/--
The bytes of a header: so many of fixed width, and then those of the identity, of each item, and of
the notice.
-/
theorem Header.length_put (header : Header) :
    (schema.binary.put header).length = 31 + (Identity.schema.binary.put header.identity).length +
      (header.items.flatMap Descriptor.schema.binary.put).length +
      (Binary.Layout.text.optional.put header.notice).length := by
  -- The number of the items is written in a word, like the flags and the other counts.
  simp only [schema, Schema.record, Schema.via, Binary.Layout.via, Schema.Fields.binary,
    Binary.Layout.pair, Schema.list, Binary.Layout.list, List.length_append,
    Bytes.length_ofNat, Schema.word32, Schema.word64, Schema.natural, Binary.Layout.natural,
    Schema.flag, Binary.Layout.flag, List.length_cons, List.length_nil, Binary.Layout.empty,
    Schema.optional, Schema.text]
  omega

/-- A body without bytes is one chunk, however large the batches are. -/
theorem Descriptor.chunkCount_zero (batch : Nat) : chunkCount 0 batch = 1 := by
  -- There is no whole batch in less than one.
  have none : (0 + batch - 1) / batch = 0 := by
    rcases Nat.eq_zero_or_pos batch with rfl | positive
    · rfl
    · exact Nat.div_eq_of_lt (by omega)
  rw [chunkCount, none]
  rfl

namespace Parcel

/-- So many empty parcels that a header, which counts them in a word, counts none of them. -/
def crowd : List Parcel := List.replicate UInt32.size ⟨"k", []⟩

/-- All parcels of the crowd are alike. -/
theorem mem_crowd {item : Parcel} (member : item ∈ crowd) : item = ⟨"k", []⟩ :=
  List.eq_of_mem_replicate member

/-- The crowd is not empty. -/
theorem crowd_ne_nil : crowd ≠ [] := by
  -- The crowd has as many members as a word has values.
  rw [crowd, ne_eq, List.replicate_eq_nil_iff]
  decide

/-- The number of parcels in the crowd wraps around to zero. -/
theorem wraps_crowd : UInt32.ofNat crowd.length = 0 := by
  -- As many as a word has values is zero in a word.
  rw [crowd, List.length_replicate]
  rfl

/-- Each parcel of the crowd has a key, and a body that can be stored. -/
theorem stored_crowd : ∀ item ∈ crowd, item.key ≠ "" ∧ item.body.length < allocationBound := by
  -- The parcels are alike, so one of them is looked at.
  intro item member
  rw [mem_crowd member]
  decide

/-- An empty parcel has one chunk. -/
theorem counted_crowd (batch : Nat) : ∀ item ∈ crowd, item.chunkCount batch < UInt32.size := by
  -- The one chunk is there for the mark that ends the parcel.
  intro item member
  have single : chunkCount batch ⟨"k", []⟩ = 1 := Descriptor.chunkCount_zero batch
  rw [mem_crowd member, single]
  decide

/-- The crowd is announced by as many descriptors, all of them alike. -/
theorem announced_crowd (batch : Nat) :
    crowd.map (announced batch) = List.replicate UInt32.size ⟨"k", 0, 1⟩ := by
  -- The members are alike, and so are their descriptors.
  have single : chunkCount batch ⟨"k", []⟩ = 1 := Descriptor.chunkCount_zero batch
  rw [crowd, List.map_replicate, announced, single]
  rfl

end Parcel

/-- Copies of one item have its chunks each. -/
theorem Header.totalChunks_replicate (count : Nat) (item : Descriptor) :
    totalChunks (List.replicate count item) = count * item.chunks.toNat := by
  -- The copies are counted one by one.
  induction count with
  | zero => rw [Nat.zero_mul]; rfl
  | succ count ih =>
    have more : totalChunks (List.replicate (count + 1) item) =
        item.chunks.toNat + totalChunks (List.replicate count item) := rfl
    rw [more, ih, Nat.succ_mul, Nat.add_comm]

namespace Round

variable {role : Role} {round : Round Parcel}

/-- The frame of a binary header of few enough bytes fits a buffer of so many times more. -/
theorem length_headerFrame_le {settings : Settings} (binary : settings.encoding = .binary)
    (header : Header) :
    (headerFrame settings header).length ≤
      2 * (Header.schema.binary.put header).length + 1 + settings.runLength := by
  -- Escaping at most doubles the header.
  have escaped := Escape.length_encode_le_double settings.runLength
    (Header.schema.binary.put header)
  have frame : (headerFrame settings header).length =
      (Escape.encode settings.runLength (Header.schema.binary.put header)).length +
        settings.runLength := by
    rw [headerFrame, binary, Writer.sealed, List.length_append, List.length_replicate]
    rfl
  omega

/-- A header that announces the crowd has room in a buffer of a terabyte. -/
theorem length_headerFrame_crowd {settings : Settings} (binary : settings.encoding = .binary)
    (run : settings.runLength ≤ UInt32.size) {header : Header} {batch : Nat}
    (announced : header.items = Parcel.crowd.map (Parcel.announced batch))
    (named : (Identity.schema.binary.put header.identity).length ≤ UInt32.size)
    (silent : header.notice = none) : (headerFrame settings header).length ≤ Nat.pow 2 40 := by
  -- There are that many items of 21 bytes each.
  have frame := length_headerFrame_le binary header
  have content := Header.length_put header
  have item : (Descriptor.schema.binary.put ⟨"k", 0, 1⟩).length = 21 := by decide
  rw [announced, Parcel.announced_crowd, List.length_flatMap, List.map_replicate,
    List.sum_replicate_nat, item, silent] at content
  have nothing : (Binary.Layout.text.optional.put none).length = 1 := rfl
  have size : UInt32.size = 4294967296 := rfl
  have room : Nat.pow 2 40 = 1099511627776 := rfl
  rw [nothing] at content
  rw [size] at run named content
  rw [room]
  omega

/-- Items whose chunks can be counted can be announced. -/
theorem describeAll_of_counted {batch : Nat} (positive : 0 < batch) {items : List Parcel}
    (counted : ∀ item ∈ items, item.chunkCount batch < UInt32.size) :
    describeAll batch items = .ok (items.map (Parcel.announced batch)) := by
  -- By induction on the items, of which each one can be announced.
  induction items with
  | nil => rfl
  | cons item items ih =>
    obtain ⟨here, later⟩ := List.forall_mem_cons.mp counted
    have bounded : max batch 1 = batch := by omega
    -- The first item is announced, and the others after it.
    have first : Transferable.descriptor item batch = .ok (item.announced batch) := by
      simp only [Transferable.descriptor, Descriptor.ofSize, bounded]
      exact if_pos here
    rw [describeAll, first, ih later]
    rfl

/-- A header of items that can be announced is sent if its frame fits. -/
theorem sendHeader_of_fits (opened : round.context.close = false)
    (positive : 0 < round.context.settings.batchSize)
    (counted : ∀ item ∈ (round.outgoing role).items,
      item.chunkCount round.context.settings.batchSize < UInt32.size)
    (fits : (headerFrame round.context.settings (headerFor round.context (round.outgoingHeader role)
      ((round.outgoing role).items.map
        (Parcel.announced round.context.settings.batchSize)))).length ≤
      round.context.settings.headerCapacity) :
    ∃ after, round.sendHeader role = (.ok .final, after) := by
  -- Nothing keeps the items from being announced.
  have announced : round.announcement role = .ok ((round.outgoing role).items.map
      (Parcel.announced round.context.settings.batchSize)) := by
    rw [announcement, opened]
    exact describeAll_of_counted positive counted
  exact ⟨_, (sendHeader_eq announced).trans (if_pos fits)⟩

/-- A header that announces the crowd is sent if the buffer holds a terabyte. -/
theorem sendHeader_crowd (opened : round.context.close = false)
    (positive : 0 < round.context.settings.batchSize)
    (binary : round.context.settings.encoding = .binary)
    (roomy : Nat.pow 2 40 ≤ round.context.settings.headerCapacity)
    (run : round.context.settings.runLength ≤ UInt32.size)
    (named : (Identity.schema.binary.put round.context.identity).length ≤ UInt32.size)
    (silent : (round.outgoingHeader role).notice = none)
    (carried : (round.outgoing role).items = Parcel.crowd) :
    ∃ after, round.sendHeader role = (.ok .final, after) := by
  -- All that matters of the header is how long it is.
  refine sendHeader_of_fits opened positive ?_ ?_
  · rw [carried]
    exact Parcel.counted_crowd _
  · rw [carried]
    exact Nat.le_trans (length_headerFrame_crowd binary run rfl named silent) roomy

/-- Whether a message is to be sent once it is announced depends on the count in its header. -/
theorem active_announce (role : Role) (round : Round Parcel) (items : List Descriptor) :
    (round.announce role items).context.sending.active =
      decide (0 < UInt32.ofNat items.length) := by
  cases role <;> rfl

/--
A header that is sent for items whose number wraps around to zero announces all of them, but counts
none, and then none is sent.
-/
theorem sendHeader_uncounted {kind : Markup} {after : Round Parcel}
    (clear : round.context.Clear) (positive : 0 < round.context.settings.batchSize)
    (current : (round.outgoingHeader role).version = protocolVersion)
    (wraps : UInt32.ofNat (round.outgoing role).items.length = 0)
    (sent : round.sendHeader role = (.ok kind, after)) :
    let settings := round.context.settings
    ∃ header, header.Announces settings.batchSize round.context.identity
        (round.outgoing role).items ∧ header.itemsCount = 0 ∧
      header.chunksCount = UInt64.ofNat (Header.totalChunks header.items) ∧
      (headerFrame settings header).length ≤ settings.headerCapacity ∧
      after.outgoingHeader role = header ∧
      after.context.output = round.context.output ++ headerFrame settings header ∧
      SameReceiving role round after ∧ after.context.sending.active = false := by
  -- A round that is clear reports nothing wrong.
  intro settings
  obtain ⟨counted, fits, rfl⟩ := sendHeader_ok clear.close positive sent
  have announces : (headerFor round.context (round.outgoingHeader role)
      ((round.outgoing role).items.map (Parcel.announced settings.batchSize))).Announces
        settings.batchSize round.context.identity (round.outgoing role).items :=
    ⟨current, rfl, rfl, by simp only [headerFor, Header.setItems, List.length_map], clear.denied,
      clear.close, clear.errors⟩
  have uncounted := announces.itemsCount.trans wraps
  refine ⟨_, announces, uncounted, rfl, fits, ?_, ?_, ?_, ?_⟩
  · cases role <;> rfl
  · cases role <;> rfl
  · cases role <;> exact ⟨rfl, rfl, rfl, rfl, rfl, rfl, rfl, rfl, rfl, rfl, rfl⟩
  · -- A message of no items is over as soon as it is announced.
    refine (active_announce role round _).trans ?_
    rw [List.length_map, wraps]
    rfl

end Round

end SentinelRounds
