import SentinelRounds.Proofs.Frame.Framing
import SentinelRounds.Proofs.Round.Chunks
import SentinelRounds.Proofs.Round.Header

/-! What the sending half of a round writes, and what it leaves alone. -/

namespace SentinelRounds

namespace Settings

/-- What a check of settings grants if a chunk takes so much. -/
theorem checkFor_ok {settings : Settings} {chunkFrame : Nat}
    (checked : settings.checkFor chunkFrame = .ok ()) :
    2 ≤ settings.runLength ∧ 0 < settings.batchSize ∧ chunkFrame ≤ settings.messageCapacity ∧
      settings.runLength < settings.headerCapacity := by
  -- The four tests are passed one after the other.
  unfold checkFor at checked
  split at checked
  · cases checked
  split at checked
  · cases checked
  split at checked
  · cases checked
  split at checked
  · cases checked
  refine ⟨?_, ?_, ?_, ?_⟩ <;> omega

/-- What a check of settings grants; words say little of how much a chunk really takes. -/
theorem check_ok {settings : Settings} (checked : settings.check = .ok ()) :
    2 ≤ settings.runLength ∧ 0 < settings.batchSize ∧
      settings.maxChunkFrame % UInt64.size ≤ settings.messageCapacity ∧
      settings.runLength < settings.headerCapacity :=
  checkFor_ok checked

/-- What a check of settings would come to in numbers without a bound. -/
def checkExact (settings : Settings) : Except SettingsFault Unit :=
  settings.checkFor settings.maxChunkFrame

/-- Words are exact as long as they can hold the size of a chunk frame. -/
theorem check_eq_checkExact {settings : Settings}
    (countable : settings.maxChunkFrame < UInt64.size) : settings.check = settings.checkExact := by
  -- Nothing wraps around.
  rw [check, checkExact, Nat.mod_eq_of_lt countable]

/-- Words can hold the size of a chunk frame if memory can hold a batch and a run. -/
theorem maxChunkFrame_lt {settings : Settings} (batch : settings.batchSize < allocationBound)
    (run : settings.runLength < allocationBound) : settings.maxChunkFrame < UInt64.size := by
  -- An escape stands for a run at least, so the escapes of a batch add a batch at most.
  have bound : allocationBound = 9223372036854775807 := rfl
  have words : UInt64.size = 18446744073709551616 := rfl
  rw [bound] at batch run
  rw [words, maxChunkFrame, Escape.maxLength]
  generalize settings.batchSize = size at batch
  have limits : settings.runLength ≤ Escape.limit settings.runLength + 1 ∧
      0 < Escape.limit settings.runLength := by
    unfold Escape.limit
    omega
  obtain ⟨near, positive⟩ := limits
  generalize Escape.limit settings.runLength = limit at near positive
  -- Long runs leave few escapes: their number and the length of a run share one batch.
  rcases Nat.lt_or_ge size limit with short | long
  · rw [Nat.div_eq_of_lt short]
    omega
  · have shared : size / limit + limit ≤ size + 1 := by
      have some := Nat.div_pos long positive
      have whole := Nat.div_mul_le_self size limit
      obtain ⟨more, quotient⟩ : ∃ more, size / limit = more + 1 := ⟨size / limit - 1, by omega⟩
      obtain ⟨other, rfl⟩ : ∃ other, limit = other + 1 := ⟨limit - 1, by omega⟩
      rw [quotient] at whole ⊢
      have product : (more + 1) * (other + 1) = more * other + more + other + 1 := by
        rw [Nat.add_mul, Nat.mul_add, Nat.one_mul, Nat.mul_one]
        omega
      omega
    omega

/-- Accepted settings under which there is memory for the buffers and for a batch. -/
structure Usable (settings : Settings) : Prop where
  checked : settings.check = .ok ()
  allocates : settings.Allocates
  batch : settings.batchSize < allocationBound

/-- Usable settings would be accepted in numbers without a bound as well. -/
theorem Usable.exactly {settings : Settings} (usable : settings.Usable) :
    settings.checkExact = .ok () := by
  -- A header buffer is longer than a run.
  obtain ⟨checked, allocates, batch⟩ := usable
  have run := Nat.lt_trans (check_ok checked).2.2.2 allocates.1
  rw [← check_eq_checkExact (maxChunkFrame_lt batch run)]
  exact checked

end Settings

/--
Whether headers that fit their buffer count some items: there are few enough of them, or the buffer
has no room for more.
-/
def Settings.Counts (settings : Settings) (items : List Parcel) : Prop :=
  settings.headerCapacity ≤ UInt32.size ∨ items.length < UInt32.size

/-- A header in which an end announces some parcels, and nothing went wrong before. -/
structure Header.Announces (batch : Nat) (sender : Identity) (parcels : List Parcel)
    (header : Header) : Prop where
  version : header.version = protocolVersion
  identity : header.identity = sender
  items : header.items = parcels.map (Parcel.announced batch)
  itemsCount : header.itemsCount = UInt32.ofNat parcels.length
  denied : header.denied = false
  close : header.close = false
  errors : header.errors = 0

/-- Nothing has gone wrong in a round, and it is not closing. -/
structure Context.Clear (context : Context) : Prop where
  close : context.close = false
  denied : context.denied = false
  errors : context.errors = 0

namespace Round

variable {ι : Type}

/-- Nothing that receiving depends on or makes has changed. -/
structure SameReceiving (role : Role) (before after : Round ι) : Prop where
  settings : after.context.settings = before.context.settings
  identity : after.context.identity = before.context.identity
  peer : after.context.peer = before.context.peer
  close : after.context.close = before.context.close
  denied : after.context.denied = before.context.denied
  synchronic : after.context.synchronic = before.context.synchronic
  errors : after.context.errors = before.context.errors
  receiving : after.context.receiving = before.context.receiving
  intake : after.context.intake = before.context.intake
  incoming : after.incoming role = before.incoming role
  incomingHeader : after.incomingHeader role = before.incomingHeader role

namespace SameReceiving

variable {role : Role}

/-- What two changes leave alone, both together leave alone. -/
theorem trans {first second third : Round ι} (front : SameReceiving role first second)
    (back : SameReceiving role second third) : SameReceiving role first third :=
  ⟨back.settings.trans front.settings, back.identity.trans front.identity,
    back.peer.trans front.peer, back.close.trans front.close, back.denied.trans front.denied,
    back.synchronic.trans front.synchronic, back.errors.trans front.errors,
    back.receiving.trans front.receiving, back.intake.trans front.intake,
    back.incoming.trans front.incoming, back.incomingHeader.trans front.incomingHeader⟩

end SameReceiving

/-- Items that can be announced are announced one by one, and the chunks of each can be counted. -/
theorem describeAll_ok {batch : Nat} (positive : 0 < batch) {items : List Parcel}
    {announced : List Descriptor} (described : describeAll batch items = .ok announced) :
    announced = items.map (Parcel.announced batch) ∧
      ∀ parcel ∈ items, parcel.chunkCount batch < UInt32.size := by
  -- The first item that cannot be announced would stop the others.
  induction items generalizing announced with
  | nil =>
    cases described
    exact ⟨rfl, fun _ member => by cases member⟩
  | cons parcel items ih =>
    have bounded : max batch 1 = batch := by omega
    simp only [describeAll, Transferable.descriptor, Descriptor.ofSize, bounded] at described
    split at described
    · -- The first item cannot be announced.
      cases described
    · rename_i descriptor first
      split at first
      · rename_i counted
        cases first
        split at described
        · cases described
        · rename_i others rest
          -- The first item can, and so can the others.
          cases described
          obtain ⟨rfl, all⟩ := ih rest
          exact ⟨rfl, List.forall_mem_cons.mpr ⟨counted, all⟩⟩
      · cases first

/-- A frame that has been sent has been sent from some round. -/
theorem sent_of_succeeded {made : Except RoundFault Markup × Round ι} {kind : Markup}
    (succeeded : made.1.toOption = some kind) : made = (.ok kind, made.2) := by
  -- A result with a value is a success.
  obtain ⟨answer, after⟩ := made
  cases answer with
  | error fault => cases succeeded
  | ok sent =>
    cases succeeded
    rfl

/-- A frame that is written goes to the end of the output, and fits the buffer of the peer. -/
theorem writeFrame_ok {round after : Round ι} {phase : Phase} {content : Bytes}
    {kind other : Markup} (written : round.writeFrame phase content kind = (.ok other, after)) :
    (((round.context.settings.writer phase).sealed content kind).length ≤
      round.context.settings.capacity phase) ∧
    after = round.onContext fun context =>
      { context with
        output := context.output ++
          (round.context.settings.writer phase).sealed content kind } := by
  -- Only a write that succeeds is answered with a marker.
  unfold writeFrame Context.writeFrame at written
  cases made : (round.context.settings.writer phase).write round.context.output content kind with
  | error fault =>
    rw [made] at written
    cases written
  | ok answer =>
    obtain ⟨output, added⟩ := answer
    obtain ⟨_, fits, rfl, _⟩ := Writer.write_eq_ok made
    rw [made] at written
    cases written
    exact ⟨fits, rfl⟩

/-- A frame of closed content that fits is written. -/
theorem writeFrame_of_fits (round : Round ι) (phase : Phase) {content : Bytes} {kind : Markup}
    (closes : kind.closes = true)
    (fits : ((round.context.settings.writer phase).sealed content kind).length ≤
      round.context.settings.capacity phase) :
    round.writeFrame phase content kind = (.ok kind, round.onContext fun context =>
      { context with
        output := context.output ++
          (round.context.settings.writer phase).sealed content kind }) := by
  -- The two tests of the writer are passed.
  have made := Writer.frame_eq_ok_iff.mpr ⟨closes, fits, rfl⟩
  unfold writeFrame Context.writeFrame Writer.write
  rw [made]
  rfl

/-- A frame of closed content that does not fit is refused, and the round stays as it was. -/
theorem writeFrame_of_overflow (round : Round ι) (phase : Phase) {content : Bytes} {kind : Markup}
    (closes : kind.closes = true)
    (exceeds : round.context.settings.capacity phase <
      ((round.context.settings.writer phase).sealed content kind).length) :
    round.writeFrame phase content kind =
      (.error (.codec (.frame (.tooLarge
        ((round.context.settings.writer phase).sealed content kind).length
        (round.context.settings.capacity phase)))), round) := by
  -- The marker passes its test, and the size does not.
  have size : ((round.context.settings.writer phase).sealed content kind).length =
      (Escape.encode round.context.settings.runLength content).length +
        round.context.settings.runLength := by
    simp [Writer.sealed, Settings.writer]
  have refused : (round.context.settings.writer phase).frame content kind =
      .error (.tooLarge ((round.context.settings.writer phase).sealed content kind).length
        (round.context.settings.capacity phase)) := by
    rw [size] at exceeds ⊢
    simp only [Writer.frame, if_pos closes]
    exact if_pos exceeds
  unfold writeFrame Context.writeFrame Writer.write
  rw [refused]
  rfl

/-- The frame in which a header is sent. -/
def headerFrame (settings : Settings) (header : Header) : Bytes :=
  (settings.writer .header).sealed (settings.encoding.encode Header.schema header) .final

/-- The frame of a header has more bytes than the header announces items. -/
theorem length_items_lt {settings : Settings} (checked : settings.check = .ok ())
    (header : Header) : header.items.length < (headerFrame settings header).length := by
  -- The terminator alone is longer than nothing, and the escapes only add to the header.
  have regular := (Settings.check_ok checked).1
  have encoded := settings.encoding.length_items_le header
  have escaped := Escape.length_le_length_encode settings.runLength
    (settings.encoding.encode Header.schema header)
  have frame : (headerFrame settings header).length =
      (Escape.encode settings.runLength (settings.encoding.encode Header.schema header)).length +
        settings.runLength := by
    rw [headerFrame, Writer.sealed, List.length_append, List.length_replicate]
    rfl
  omega

/--
Sending a header announces what there is to announce, whether or not its frame fits; only a frame
that fits is written.
-/
theorem sendHeader_eq [Transferable ι] {role : Role} {round : Round ι} {items : List Descriptor}
    (announced : round.announcement role = .ok items) :
    let settings := round.context.settings
    let frame := headerFrame settings (headerFor round.context (round.outgoingHeader role) items)
    round.sendHeader role =
      if frame.length ≤ settings.headerCapacity then
        (.ok .final, (round.announce role items).onContext fun context =>
          { context with output := context.output ++ frame })
      else (.error (.codec (.frame (.tooLarge frame.length settings.headerCapacity))),
        round.announce role items) := by
  -- Announcing the items makes the header, and leaves the settings alone.
  intro settings frame
  have header : (round.announce role items).outgoingHeader role =
      headerFor round.context (round.outgoingHeader role) items := by
    cases role <;> rfl
  have configured : (round.announce role items).context.settings = settings := by
    cases role <;> rfl
  have closes : Markup.final.closes = true := rfl
  simp only [sendHeader, announced, header, configured]
  split
  · -- The writer has room, and the frame goes to the end of the output.
    rename_i fits
    have written := writeFrame_of_fits (round.announce role items) .header closes
      (by rw [configured]; exact fits)
    rw [configured] at written
    exact written
  · -- The writer refuses the frame, and the items stay announced.
    rename_i exceeds
    have refused := writeFrame_of_overflow (round.announce role items) .header closes
      (by rw [configured]; exact Nat.lt_of_not_le exceeds)
    rw [configured] at refused
    exact refused

/-- A header that is sent announces all outgoing parcels, in a frame that fits the peer's buffer. -/
theorem sendHeader_ok {role : Role} {round after : Round Parcel} {kind : Markup}
    (opened : round.context.close = false) (positive : 0 < round.context.settings.batchSize)
    (sent : round.sendHeader role = (.ok kind, after)) :
    let announced := (round.outgoing role).items.map
      (Parcel.announced round.context.settings.batchSize)
    let frame := headerFrame round.context.settings
      (headerFor round.context (round.outgoingHeader role) announced)
    (∀ parcel ∈ (round.outgoing role).items,
      parcel.chunkCount round.context.settings.batchSize < UInt32.size) ∧
    frame.length ≤ round.context.settings.headerCapacity ∧
    after = (round.announce role announced).onContext fun context =>
      { context with output := context.output ++ frame } := by
  -- All items can be announced, or nothing is sent.
  intro announced frame
  unfold sendHeader announcement at sent
  simp only [opened, Bool.false_eq_true, if_false] at sent
  cases described : describeAll round.context.settings.batchSize (round.outgoing role).items with
  | error fault =>
    rw [described] at sent
    cases sent
  | ok found =>
    obtain ⟨rfl, counted⟩ := describeAll_ok positive described
    rw [described] at sent
    -- Announcing the items makes the header, and leaves the settings alone.
    have header : (round.announce role announced).outgoingHeader role =
        headerFor round.context (round.outgoingHeader role) announced := by
      cases role <;> rfl
    have settings : (round.announce role announced).context.settings = round.context.settings := by
      cases role <;> rfl
    simp only [announced] at header settings
    simp only [header] at sent
    obtain ⟨fits, written⟩ := writeFrame_ok sent
    rw [settings] at fits written
    exact ⟨counted, fits, written⟩

/-- The frame in which a chunk is sent. -/
def chunkFrame (settings : Settings) (chunk : Inbound) : Bytes :=
  (settings.writer .message).sealed chunk.frame chunk.kind

/-- If settings are accepted without a bound, content of at most a batch fits the peer's buffer. -/
theorem length_sealed_le {settings : Settings} (checked : settings.checkExact = .ok ())
    {content : Bytes} (short : content.length ≤ settings.batchSize) (kind : Markup) :
    ((settings.writer .message).sealed content kind).length ≤ settings.messageCapacity := by
  -- The settings leave room for the longest form that a full batch can take.
  obtain ⟨_, _, room, _⟩ := Settings.checkFor_ok checked
  have escaped := Escape.length_encode_le settings.runLength content
  have most := Escape.maxLength_mono short settings.runLength
  simp only [Writer.sealed, Settings.writer, List.length_append, List.length_replicate]
  unfold Settings.maxChunkFrame at room
  omega

/-- If settings are accepted without a bound, the frame of every chunk fits the peer's buffer. -/
theorem length_chunkFrame_le {settings : Settings} (checked : settings.checkExact = .ok ())
    (parcel : Parcel) (index : Nat) :
    (chunkFrame settings (parcel.chunk settings.batchSize index)).length ≤
      settings.messageCapacity :=
  -- A chunk carries no more than a batch.
  length_sealed_le checked (parcel.length_piece_le settings.batchSize index) _

/-- A round that is sending some parcels stands at a place among them, or has sent them all. -/
structure Sends (role : Role) (settings : Settings) (items : List Parcel) (place : Option Place)
    (round : Round Parcel) : Prop where
  configured : round.context.settings = settings
  carried : (round.outgoing role).items = items
  declared : (round.outgoing role).outputChunks =
    items.map fun item => UInt32.ofNat (item.chunkCount settings.batchSize)
  progress : match place with
    | none => round.context.sending.active = false
    | some place => place.In settings.batchSize items ∧ round.context.sending =
      { active := true, item := place.before.length, chunk := place.index,
        offset := place.index * settings.batchSize }

/-- A change to the context that leaves the settings and the outgoing message alone. -/
theorem Sends.onContext {role : Role} {settings : Settings} {items : List Parcel}
    {place : Option Place} {round : Round Parcel}
    (sends : round.Sends role settings items place) (change : Context → Context)
    (configured : (change round.context).settings = round.context.settings)
    (sending : (change round.context).sending = round.context.sending) :
    (round.onContext change).Sends role settings items place := by
  -- Messages are no part of the context.
  refine ⟨configured.trans sends.configured, ?_, ?_, ?_⟩
  · rw [← sends.carried]
    cases role <;> rfl
  · rw [← sends.declared]
    cases role <;> rfl
  · have progress := sends.progress
    rw [← sending] at progress
    exact progress

/-- The chunks declared for the parcel at a place are all of its chunks. -/
theorem declaredChunks_eq {batch : Nat} {items : List Parcel} {place : Place}
    (inside : place.In batch items) (counted : ∀ item ∈ items, item.chunkCount batch < UInt32.size) :
    declaredChunks (items.map fun item => UInt32.ofNat (item.chunkCount batch))
      place.before.length = place.parcel.chunkCount batch := by
  -- The count of chunks was declared for this very parcel.
  have here := inside.getElem
  simp only [declaredChunks, List.getElem?_map, here, Option.map_some]
  exact UInt32.toNat_ofNat_of_lt' (counted _ (List.mem_of_getElem? here))

/-- How far a message of so many items has come once the last chunk of one is sent. -/
def finished (sending : Sending) (count : Nat) : Sending :=
  if sending.item + 1 < count then { sending with chunk := 0, item := sending.item + 1, offset := 0 }
  else { sending with chunk := 0, active := false }

/-- Moving past an item changes how far the outgoing message has come, and nothing else. -/
theorem finishSending_eq (context : Context) (count : Nat) :
    finishSending context context.sending.item count =
      { context with sending := finished context.sending count } := by
  -- Either the next item is up, or the message is over.
  unfold finishSending finished
  split <;> rfl

/-- A chunk whose frame fits is written, and moves the round past its item if it is the last one. -/
theorem sendChunk_of_fits (round : Round Parcel) (role : Role) {chunk : Inbound}
    (closes : chunk.kind.closes = true)
    (fits : (chunkFrame round.context.settings chunk).length ≤
      round.context.settings.messageCapacity) :
    round.sendChunk role chunk.frame chunk.kind =
      (.ok chunk.kind, (round.noteChunk role).onContext fun context =>
        { context with
          output := context.output ++ chunkFrame round.context.settings chunk
          sending := if chunk.kind = .final then
            finished context.sending (round.outgoing role).items.length else context.sending }) := by
  -- Noting the chunk does not touch the context.
  have same : (round.noteChunk role).context = round.context := by cases role <;> rfl
  have written := writeFrame_of_fits (round.noteChunk role) .message closes
    (by rw [same]; exact fits)
  have moved := finishSending_eq { round.context with
    output := round.context.output ++ chunkFrame round.context.settings chunk }
    (round.outgoing role).items.length
  simp only [sendChunk, written, same]
  split
  · refine congrArg (Prod.mk _) ?_
    cases role <;>
      exact congrArg (fun context => ({ noteChunk round _ with context } : Round Parcel)) moved
  · cases role <;> rfl

/-- A sent chunk leaves alone what receiving depends on, and brings the message as far as it says. -/
theorem sendChunk_sent (round : Round Parcel) (role : Role) {chunk : Inbound}
    (closes : chunk.kind.closes = true)
    (fits : (chunkFrame round.context.settings chunk).length ≤
      round.context.settings.messageCapacity) :
    ∃ after, round.sendChunk role chunk.frame chunk.kind = (.ok chunk.kind, after) ∧
      after.context.output = round.context.output ++ chunkFrame round.context.settings chunk ∧
      SameReceiving role round after ∧
      (after.outgoing role).items = (round.outgoing role).items ∧
      (after.outgoing role).outputChunks = (round.outgoing role).outputChunks ∧
      after.context.sending = if chunk.kind = .final then
        finished round.context.sending (round.outgoing role).items.length
        else round.context.sending := by
  -- The frame fits, so what is left to compare are the fields.
  refine ⟨_, sendChunk_of_fits round role closes fits, ?_⟩
  cases role <;> exact ⟨rfl, ⟨rfl, rfl, rfl, rfl, rfl, rfl, rfl, rfl, rfl, rfl, rfl⟩, rfl, rfl, rfl⟩

/-- Once a chunk is sent, the message stands at the place after it, or is over. -/
theorem sent_progress {batch : Nat} {items : List Parcel} {place : Place}
    (inside : place.In batch items) {sending : Sending} (active : sending.active = true)
    (item : sending.item = place.before.length)
    (onward : ¬ place.Closing batch →
      sending.chunk = place.index + 1 ∧ sending.offset = (place.index + 1) * batch) :
    let after := if (place.chunk batch).kind = .final then finished sending items.length else sending
    match place.next batch with
    | none => after.active = false
    | some place => place.In batch items ∧ after =
        { active := true, item := place.before.length, chunk := place.index,
          offset := place.index * batch } := by
  -- The marker of the chunk tells whether it is the last one of its parcel.
  intro after
  have known : after = if place.Closing batch then finished sending items.length else sending := by
    simp only [after, Place.final_iff]
  have count : items.length = place.before.length + 1 + place.later.length := by
    rw [← inside.whole, Place.items]
    simp only [List.length_append, List.length_cons]
    omega
  have stays : ∀ other, place.next batch = some other → other.In batch items :=
    fun _ follows => inside.next follows
  obtain ⟨active', item', chunk, offset⟩ := sending
  obtain ⟨before, parcel, index, later⟩ := place
  simp only at active item onward count known
  subst active item
  rw [known]
  by_cases closing : Place.Closing batch ⟨before, parcel, index, later⟩
  · -- After a last chunk, the next parcel is up, if there is one.
    simp only [Place.next, if_pos closing] at stays ⊢
    unfold finished
    cases later with
    | nil =>
      simp only [List.length_nil, Nat.add_zero] at count
      simp only [count, Nat.lt_irrefl, if_false]
    | cons other later =>
      simp only [List.length_cons] at count
      have more : before.length + 1 < items.length := by omega
      refine ⟨stays _ rfl, ?_⟩
      simp only [if_pos more, List.length_append, List.length_singleton, Nat.zero_mul]
  · -- Before it, the round stays with the parcel.
    simp only [Place.next, if_neg closing] at stays ⊢
    obtain ⟨rfl, rfl⟩ := onward closing
    exact ⟨stays _ rfl, rfl⟩

/-- A round that is sending cuts the next chunk out of the body of its parcel, and sends it. -/
theorem Sends.sendMessage_eq {role : Role} {settings : Settings} {items : List Parcel}
    {place : Place} {round : Round Parcel} (sends : round.Sends role settings items (some place))
    (positive : 0 < settings.batchSize) (short : settings.batchSize < allocationBound)
    (counted : ∀ item ∈ items, item.chunkCount settings.batchSize < UInt32.size) :
    ∃ sending : Sending, sending.active = true ∧ sending.item = place.before.length ∧
      (¬ place.Closing settings.batchSize → sending.chunk = place.index + 1 ∧
        sending.offset = (place.index + 1) * settings.batchSize) ∧
      round.sendMessage role =
        (round.onContext fun context =>
          { context with itemIndex := place.before.length, sending }).sendChunk role
            (place.chunk settings.batchSize).frame (place.chunk settings.batchSize).kind := by
  -- The place says which bytes are next, and the round reads the same ones.
  obtain ⟨rfl, rfl, declared, inside, sending⟩ := sends
  have here := inside.getElem
  have known := declaredChunks_eq inside counted
  -- The counters point at the parcel under way, and at the chunk that comes next.
  obtain ⟨⟨settings, identity, other, close, denied, synchronic, errors, itemIndex, receiving, _,
    intake, output, signals⟩, requestHeader, responseHeader, request, response⟩ := round
  simp only at sending positive short declared known here
  subst sending
  simp only [sendMessage, here, declared, known, Round.onContext, Transferable.serialize,
    if_neg (Nat.not_le_of_lt short)]
  rcases Parcel.batchAt_start positive inside.within with
    ⟨batch, empty, single⟩ | ⟨start, batch, more⟩
  · -- The one chunk of an empty body.
    have closing : place.parcel.chunkCount settings.batchSize ≤ place.index + 1 := by
      rw [single]
      exact Nat.le_add_left 1 _
    have cut : place.chunk settings.batchSize = ⟨[], .final⟩ := by
      rw [Place.chunk, Parcel.chunk, empty, if_pos closing]
    refine ⟨⟨true, place.before.length, place.index, place.index * settings.batchSize⟩, rfl, rfl,
      fun unclosed => absurd closing unclosed, ?_⟩
    simp only [batch, cut]
  · -- Any other chunk is read where it starts.
    have fits := place.parcel.length_piece_le settings.batchSize place.index
    refine ⟨⟨true, place.before.length, place.index + 1, start⟩, rfl, rfl,
      fun unclosed => ⟨rfl, more (Nat.lt_of_not_le unclosed)⟩, ?_⟩
    simp only [batch, if_neg (Nat.not_lt_of_le fits)]
    rfl

/--
The next chunk of a round that is sending is written behind its output, and moves the round past its
parcel if it is the last one; receiving does not notice.
-/
theorem Sends.sendMessage_sent {role : Role} {settings : Settings} {items : List Parcel}
    {place : Place} {round : Round Parcel} (sends : round.Sends role settings items (some place))
    (usable : settings.Usable)
    (counted : ∀ item ∈ items, item.chunkCount settings.batchSize < UInt32.size) :
    let chunk := place.chunk settings.batchSize
    ∃ (after : Round Parcel) (sending : Sending),
      sending.active = true ∧ sending.item = place.before.length ∧
      (¬ place.Closing settings.batchSize → sending.chunk = place.index + 1 ∧
        sending.offset = (place.index + 1) * settings.batchSize) ∧
      round.sendMessage role = (.ok chunk.kind, after) ∧
      after.context.output = round.context.output ++ chunkFrame settings chunk ∧
      SameReceiving role round after ∧ (after.outgoing role).items = items ∧
      (after.outgoing role).outputChunks = (round.outgoing role).outputChunks ∧
      after.context.sending =
        if chunk.kind = .final then finished sending items.length else sending := by
  -- The chunk is cut out, its frame fits, and so it is written.
  intro chunk
  obtain ⟨_, positive, _, _⟩ := Settings.check_ok usable.checked
  obtain ⟨sending, active, item, onward, cut⟩ := sends.sendMessage_eq positive usable.batch counted
  obtain ⟨rfl, rfl, _, _, _⟩ := sends
  have fits := length_chunkFrame_le usable.exactly place.parcel place.index
  have closes := place.parcel.chunk_closes round.context.settings.batchSize place.index
  obtain ⟨after, sent, output, same, carried, announced, progress⟩ := sendChunk_sent
    (round.onContext fun context =>
      { context with itemIndex := place.before.length, sending }) role closes fits
  -- The counters that move before the write belong to sending.
  have unchanged : SameReceiving role round (round.onContext fun context =>
      { context with itemIndex := place.before.length, sending }) := by
    cases role <;> exact ⟨rfl, rfl, rfl, rfl, rfl, rfl, rfl, rfl, rfl, rfl, rfl⟩
  have outgoing : (round.onContext fun context =>
      { context with itemIndex := place.before.length, sending }).outgoing role =
        round.outgoing role := by
    cases role <;> rfl
  rw [outgoing] at carried announced progress
  exact ⟨after, sending, active, item, onward, cut.trans sent, output, unchanged.trans same, carried,
    announced, progress⟩

/-- Once the next chunk is sent, the round stands at the place after it. -/
theorem Sends.step {role : Role} {settings : Settings} {items : List Parcel} {place : Place}
    {round : Round Parcel} (sends : round.Sends role settings items (some place))
    (usable : settings.Usable)
    (counted : ∀ item ∈ items, item.chunkCount settings.batchSize < UInt32.size) :
    ∃ after, round.sendMessage role = (.ok (place.chunk settings.batchSize).kind, after) ∧
      after.context.output = round.context.output ++
        chunkFrame settings (place.chunk settings.batchSize) ∧
      SameReceiving role round after ∧
      after.Sends role settings items (place.next settings.batchSize) := by
  -- The chunk has been sent, and the place after it is the next one of the parcels.
  obtain ⟨after, sending, active, item, onward, sent, output, same, carried, announced, progress⟩ :=
    sends.sendMessage_sent usable counted
  refine ⟨after, sent, output, same, same.settings.trans sends.configured, carried,
    announced.trans sends.declared, ?_⟩
  rw [progress]
  exact sent_progress sends.progress.1 active item onward

/-- Once some parcels are announced, they are to be sent from the first one on. -/
theorem announce_progress {role : Role} {round : Round Parcel} {batch : Nat} {items : List Parcel}
    (countable : items.length < UInt32.size) :
    let sending := (round.announce role (items.map (Parcel.announced batch))).context.sending
    match Place.first items with
    | none => sending.active = false
    | some place => place.In batch items ∧ sending =
        { active := true, item := place.before.length, chunk := place.index,
          offset := place.index * batch } := by
  -- Sending starts over whenever a header is made.
  intro sending
  have known : sending = { active := decide (0 < UInt32.ofNat items.length) } := by
    simp only [sending, announce, headerFor, Header.setItems, List.length_map]
    cases role <;> rfl
  rw [known]
  cases start : Place.first items with
  | none =>
    cases items with
    | nil => rfl
    | cons parcel later => cases start
  | some place =>
    refine ⟨Place.in_first batch start, ?_⟩
    cases items with
    | nil => cases start
    | cons parcel later =>
      cases start
      -- The count in the header does not overflow, so it is zero only for no parcels.
      have positive : 0 < UInt32.ofNat (parcel :: later).length := by
        rw [UInt32.lt_iff_toNat_lt, UInt32.toNat_ofNat_of_lt' countable]
        exact Nat.succ_pos _
      simp only [decide_eq_true positive, List.length_nil, Nat.zero_mul]

/-- Once a header is sent in a round that is not closing, its parcels are sent from the first one on. -/
theorem sendHeader_sends {role : Role} {round after : Round Parcel} {kind : Markup}
    (checked : round.context.settings.check = .ok ()) (opened : round.context.close = false)
    (counts : round.context.settings.Counts (round.outgoing role).items)
    (sent : round.sendHeader role = (.ok kind, after)) :
    let settings := round.context.settings
    let items := (round.outgoing role).items
    let announced := items.map (Parcel.announced settings.batchSize)
    let frame := headerFrame settings
      (headerFor round.context (round.outgoingHeader role) announced)
    items.length < UInt32.size ∧
      (∀ item ∈ items, item.chunkCount settings.batchSize < UInt32.size) ∧
      frame.length ≤ settings.headerCapacity ∧
      (after = (round.announce role announced).onContext fun context =>
        { context with output := context.output ++ frame }) ∧
      after.Sends role settings items (Place.first items) := by
  -- The header fits, which bounds the items if the settings count on that.
  intro settings items announced frame
  obtain ⟨_, positive, _, _⟩ := Settings.check_ok checked
  obtain ⟨counted, fits, rfl⟩ := sendHeader_ok opened positive sent
  -- A header with more items than can be counted would not fit.
  have countable : items.length < UInt32.size := by
    rcases counts with small | few
    · have longer := length_items_lt checked
        (headerFor round.context (round.outgoingHeader role) announced)
      have all : (headerFor round.context (round.outgoingHeader role) announced).items.length =
          items.length := List.length_map _
      rw [all] at longer
      exact Nat.lt_of_lt_of_le longer (Nat.le_trans fits small)
    · exact few
  refine ⟨countable, counted, fits, rfl, ?_, ?_, ?_, ?_⟩
  · cases role <;> rfl
  · cases role <;> rfl
  · cases role <;> simp only [announce, Message.announce, List.map_map] <;> rfl
  · exact announce_progress countable

/--
A header that is sent without faults announces the outgoing parcels, and then they are sent from the
first one on.
-/
theorem sendHeader_sent {role : Role} {round after : Round Parcel} {kind : Markup}
    {items : List Parcel} (carried : (round.outgoing role).items = items)
    (checked : round.context.settings.check = .ok ()) (clear : round.context.Clear)
    (current : (round.outgoingHeader role).version = protocolVersion)
    (counts : round.context.settings.Counts items)
    (sent : round.sendHeader role = (.ok kind, after)) :
    let settings := round.context.settings
    ∃ header, header.Announces settings.batchSize round.context.identity items ∧
      items.length < UInt32.size ∧
      (∀ item ∈ items, item.chunkCount settings.batchSize < UInt32.size) ∧
      (headerFrame settings header).length ≤ settings.headerCapacity ∧
      after.context.output = round.context.output ++ headerFrame settings header ∧
      SameReceiving role round after ∧ after.Sends role settings items (Place.first items) := by
  -- The items are sent from the first one on, so only the header remains.
  intro settings
  subst carried
  obtain ⟨countable, counted, fits, rfl, sends⟩ := sendHeader_sends checked clear.close counts sent
  -- A round that is clear reports nothing wrong.
  have announces : (headerFor round.context (round.outgoingHeader role)
      ((round.outgoing role).items.map (Parcel.announced settings.batchSize))).Announces
        settings.batchSize round.context.identity (round.outgoing role).items :=
    ⟨current, rfl, rfl, by simp only [headerFor, Header.setItems, List.length_map], clear.denied,
      clear.close, clear.errors⟩
  refine ⟨_, announces, countable, counted, fits, ?_, ?_, sends⟩
  · cases role <;> rfl
  · cases role <;> exact ⟨rfl, rfl, rfl, rfl, rfl, rfl, rfl, rfl, rfl, rfl, rfl⟩

end Round

end SentinelRounds
