import Mathlib.Data.List.Forall2
import SentinelRounds.Depot.Memory
import SentinelRounds.Proofs.Round.Wrapping
import SentinelRounds.Round.Peer

/-! What is sent is what has been announced: the bodies of the parcels in order, cut into batches. -/

namespace SentinelRounds

namespace Parcel

/--
A body cut into batches, one after the other.

Only the last batch may be shorter than the others, and a body that is empty is one empty batch.
-/
def batches (batch : Nat) (body : Bytes) : List Bytes :=
  -- Batches of no bytes would never come to an end.
  if 0 < batch ∧ batch < body.length then body.take batch :: batches batch (body.drop batch)
  else [body]
termination_by body.length
decreasing_by
  rw [List.length_drop]
  omega

/-- Some batches as the chunks of one item: the last one is final, and the others are not. -/
def sealing : List Bytes → List Round.Inbound
  | [] => []
  | [last] => [⟨last, .final⟩]
  | bytes :: more => ⟨bytes, .block⟩ :: sealing more

/-- A body has at least one batch. -/
theorem batches_ne_nil (batch : Nat) (body : Bytes) : batches batch body ≠ [] := by
  -- There is a first batch, however short.
  unfold batches
  split
  · exact List.cons_ne_nil _ _
  · exact List.cons_ne_nil _ _

/-- Nothing of a body is lost or added by cutting it. -/
theorem flatten_batches (batch : Nat) (body : Bytes) : (batches batch body).flatten = body := by
  -- The recursion is that of the batches.
  fun_induction batches batch body with
  | case1 body longer ih => rw [List.flatten_cons, ih, List.take_append_drop]
  | case2 body short => exact List.flatten_singleton

/-- Every batch becomes one chunk. -/
theorem length_sealing (pieces : List Bytes) : (sealing pieces).length = pieces.length := by
  -- The recursion is that of the markers.
  fun_induction sealing pieces with
  | case1 => rfl
  | case2 last => rfl
  | case3 bytes more _ ih => rw [List.length_cons, List.length_cons, ih]

/-- The chunks of a parcel from one on are the batches of the rest of its body. -/
theorem chunksFrom_eq_batches {batch : Nat} (positive : 0 < batch) {parcel : Parcel} {index : Nat}
    (within : index < parcel.chunkCount batch) :
    parcel.chunksFrom batch index = sealing (batches batch (parcel.body.drop (index * batch))) := by
  -- The chunks that are left are counted down to the last one.
  obtain ⟨left, count⟩ : ∃ left, parcel.chunkCount batch = index + 1 + left :=
    Nat.exists_eq_add_of_le within
  induction left generalizing index with
  | zero =>
    -- The last chunk is the rest of the body, which is no longer than a batch.
    have rest : (parcel.body.drop (index * batch)).length ≤ batch := by
      have all := Descriptor.size_le_chunks parcel.body.length positive
      rw [chunkCount, Nat.add_zero] at count
      rw [count, Nat.succ_mul] at all
      rw [List.length_drop]
      omega
    have last : parcel.chunkCount batch ≤ index + 1 := Nat.le_of_eq count
    rw [chunksFrom_cons within, chunksFrom_end last, chunk, if_pos last, piece,
      List.take_of_length_le rest, batches, if_neg (by omega)]
    rfl
  | succ left ih =>
    -- Any other chunk is a whole batch, and its successor starts within the body.
    have next : index + 1 < parcel.chunkCount batch := by omega
    have start := Descriptor.start_lt positive next (.inl (Nat.succ_pos index))
    have longer : batch < (parcel.body.drop (index * batch)).length := by
      rw [Nat.succ_mul] at start
      rw [List.length_drop]
      omega
    have others := ih next (by omega)
    rw [chunksFrom_cons within, others, chunk, if_neg (by omega), piece]
    conv_rhs => rw [batches, if_pos ⟨positive, longer⟩, List.drop_drop, ← Nat.succ_mul]
    cases cut : batches batch (parcel.body.drop ((index + 1) * batch)) with
    | nil => exact absurd cut (batches_ne_nil _ _)
    | cons bytes more => rfl

/-- The chunks of a parcel are the batches of its body. -/
theorem chunks_eq_batches {batch : Nat} (positive : 0 < batch) (parcel : Parcel) :
    parcel.chunksFrom batch 0 = sealing (batches batch parcel.body) := by
  rw [chunksFrom_eq_batches positive (Descriptor.chunkCount_pos _ _), Nat.zero_mul, List.drop_zero]

/-- So there are as many batches as chunks. -/
theorem length_batches {batch : Nat} (positive : 0 < batch) (parcel : Parcel) :
    (batches batch parcel.body).length = parcel.chunkCount batch := by
  -- The chunks are the batches with their markers.
  rw [← length_sealing, ← chunks_eq_batches positive, chunksFrom, List.length_map,
    List.length_range', Nat.sub_zero]

/-- A header counts the chunks of the parcels that it announces, whose number it can hold. -/
theorem totalChunks_announced {batch : Nat} (positive : 0 < batch) {items : List Parcel}
    (counted : ∀ item ∈ items, item.chunkCount batch < UInt32.size) :
    Header.totalChunks (items.map (Parcel.announced batch)) =
        ((items.map fun item => batches batch item.body).flatMap sealing).length ∧
      Header.totalChunks (items.map (Parcel.announced batch)) ≤ items.length * UInt32.size := by
  -- The parcels are announced one by one.
  induction items with
  | nil => exact ⟨rfl, Nat.zero_le _⟩
  | cons item items ih =>
    obtain ⟨here, later⟩ := List.forall_mem_cons.mp counted
    obtain ⟨same, bounded⟩ := ih later
    have count : (item.announced batch).chunks.toNat = item.chunkCount batch :=
      UInt32.toNat_ofNat_of_lt' here
    have total : Header.totalChunks ((item :: items).map (Parcel.announced batch)) =
        item.chunkCount batch + Header.totalChunks (items.map (Parcel.announced batch)) := by
      rw [← count]
      rfl
    rw [total]
    refine ⟨?_, ?_⟩
    · rw [List.map_cons, List.flatMap_cons, List.length_append, length_sealing,
        length_batches positive, same]
    · rw [List.length_cons, Nat.succ_mul]
      omega

end Parcel

namespace Round

variable {role : Role} {settings : Settings} {items : List Parcel}

/-- A round that is sending some parcels, and whose index is left on the last one of them. -/
structure Delivers (role : Role) (settings : Settings) (items : List Parcel)
    (place : Option Place) (round : Round Parcel) : Prop extends
    round.Sends role settings items place where
  last : place = none → round.context.sending.item = items.length - 1

/-- A change to the context that leaves the settings alone, and how far the message has come. -/
theorem Delivers.onContext {place : Option Place} {round : Round Parcel}
    (delivers : round.Delivers role settings items place) (change : Context → Context)
    (configured : (change round.context).settings = round.context.settings)
    (sending : (change round.context).sending = round.context.sending) :
    (round.onContext change).Delivers role settings items place :=
  ⟨delivers.toSends.onContext change configured sending,
    fun ended => (congrArg Sending.item sending).trans (delivers.last ended)⟩

/-- The last chunk of a message leaves the index where it is. -/
theorem Sends.last {place : Place} {round : Round Parcel}
    (sends : round.Sends role settings items (some place)) (usable : settings.Usable)
    (counted : ∀ item ∈ items, item.chunkCount settings.batchSize < UInt32.size)
    (ended : place.next settings.batchSize = none) :
    (round.sendMessage role).2.context.sending.item = items.length - 1 := by
  -- The chunk goes out, and leaves the round at the place after it.
  obtain ⟨after, sending, _, item, _, sent, _, _, _, _, progress⟩ :=
    sends.sendMessage_sent usable counted
  have inside := sends.progress.1
  -- No chunk follows, so this one is the last of the last parcel.
  have closing : place.Closing settings.batchSize := by
    by_contra more
    rw [Place.next, if_neg more] at ended
    cases ended
  have count : items.length = place.before.length + 1 := by
    rw [← inside.whole, Place.items]
    rw [Place.next, if_pos closing] at ended
    cases later : place.later with
    | nil => rw [List.length_append, List.length_singleton]
    | cons other others =>
      rw [later] at ended
      cases ended
  have stays : ¬ sending.item + 1 < items.length := by omega
  rw [if_pos ((Place.final_iff settings.batchSize place).mpr closing)] at progress
  rw [sent, progress, finished, if_neg stays, count]
  exact item

/-- The next chunk is sent, and then the one after it is up, or all have been sent. -/
theorem Delivers.step {place : Place} {round : Round Parcel}
    (delivers : round.Delivers role settings items (some place)) (usable : settings.Usable)
    (counted : ∀ item ∈ items, item.chunkCount settings.batchSize < UInt32.size) :
    ∃ after, round.sendMessage role = (.ok (place.chunk settings.batchSize).kind, after) ∧
      after.context.output = round.context.output ++
        chunkFrame settings (place.chunk settings.batchSize) ∧
      after.Delivers role settings items (place.next settings.batchSize) := by
  -- The step is that of sending, with an index that stays at the end.
  obtain ⟨after, sent, output, _, sends⟩ := delivers.toSends.step usable counted
  refine ⟨after, sent, output, sends, fun ended => ?_⟩
  have last := delivers.toSends.last usable counted ended
  rw [sent] at last
  exact last

/-- A header that is sent announces the parcels, and then they are sent from the first one on. -/
theorem sendHeader_delivers {round after : Round Parcel} {kind : Markup}
    (checked : round.context.settings.check = .ok ()) (opened : round.context.close = false)
    (counts : round.context.settings.Counts (round.outgoing role).items)
    (sent : round.sendHeader role = (.ok kind, after)) :
    let settings := round.context.settings
    let items := (round.outgoing role).items
    let header := after.outgoingHeader role
    items.length < UInt32.size ∧
      (∀ item ∈ items, item.chunkCount settings.batchSize < UInt32.size) ∧
      header.items = items.map (Parcel.announced settings.batchSize) ∧
      header.chunksCount = UInt64.ofNat (Header.totalChunks header.items) ∧
      after.context.output = round.context.output ++ headerFrame settings header ∧
      after.Delivers role settings items (Place.first items) := by
  -- The header is sent as it announces the items of the round.
  intro settings items header
  obtain ⟨countable, counted, _, rfl, sends⟩ := sendHeader_sends checked opened counts sent
  refine ⟨countable, counted, ?_, ?_, ?_, sends, fun none => ?_⟩
  · cases role <;> rfl
  · cases role <;> rfl
  · cases role <;> rfl
  · -- A message of no parcels is over at once, with the index where it starts.
    have empty : items = [] := by
      cases shape : items with
      | nil => rfl
      | cons parcel later =>
        rw [shape] at none
        cases none
    rw [empty]
    cases role <;> rfl

end Round

namespace Peer

variable {δ : Type} [Depot δ Parcel] {peer : Peer δ Parcel}

/-- What is added to the output goes out at once. -/
theorem send_sent {phase : Phase} {after : Round Parcel} {kind : Markup}
    (sent : peer.round.dispatch peer.depot peer.role .send phase none =
      (.ok kind, after, peer.depot)) :
    peer.send phase = (⟨.ok kind, after.context.output⟩,
      { peer with
        round := after.onContext fun context => { context with output := [] }
        wire := peer.wire ++ after.context.output }) := by
  -- The output is taken out of the round as it is sent.
  simp only [send, dispatch, sent]
  rfl

/-- A header that the round makes goes out at once. -/
theorem send_header {after : Round Parcel} {kind : Markup}
    (made : peer.round.sendHeader peer.role = (.ok kind, after)) :
    peer.send .header = (⟨.ok kind, after.context.output⟩,
      { peer with
        round := after.onContext fun context => { context with output := [] }
        wire := peer.wire ++ after.context.output }) :=
  -- Sending a header has nothing to do with the depot.
  send_sent (by simp only [Round.dispatch, made])

/-- An end that has nothing to send sends nothing. -/
theorem sendAll_idle (idle : peer.round.context.sending.active = false) (limit : Nat) :
    peer.sendAll limit = ([], peer) := by
  -- The loop asks whether a message is due before it sends.
  cases limit with
  | zero => rfl
  | succ limit =>
    rw [sendAll, idle]
    rfl

/-- Chunk after chunk is sent, up to the limit or to the last one. -/
theorem sendAll_delivers {settings : Settings} {items : List Parcel} {place : Option Place}
    (usable : settings.Usable)
    (counted : ∀ item ∈ items, item.chunkCount settings.batchSize < UInt32.size)
    (delivers : peer.round.Delivers peer.role settings items place)
    (flushed : peer.round.context.output = []) (limit : Nat) :
    let chunks := place.elim [] (Place.chunks settings.batchSize)
    let calls := peer.sendAll limit
    calls.1 = (chunks.take limit).map (fun chunk =>
        ⟨.ok chunk.kind, Round.chunkFrame settings chunk⟩) ∧
      calls.2.round.context.sending.active = decide (limit < chunks.length) ∧
      (chunks.length ≤ limit → calls.2.round.context.sending.item = items.length - 1) := by
  -- Each round of the loop sends one chunk.
  induction limit generalizing peer place with
  | zero =>
    cases place with
    | none => exact ⟨rfl, delivers.progress, fun _ => delivers.last rfl⟩
    | some place =>
      obtain ⟨inside, sending⟩ := delivers.progress
      rw [Option.elim_some, Place.chunks_eq inside]
      refine ⟨rfl, ?_, fun none => absurd none (Nat.not_succ_le_zero _)⟩
      exact congrArg Sending.active sending
  | succ limit ih =>
    cases place with
    | none =>
      rw [sendAll_idle delivers.progress]
      exact ⟨rfl, delivers.progress, fun _ => delivers.last rfl⟩
    | some place =>
      obtain ⟨inside, sending⟩ := delivers.progress
      have active : peer.round.context.sending.active = true := congrArg Sending.active sending
      -- One chunk goes out, and the others as far as the limit allows.
      obtain ⟨after, sent, output, next⟩ := delivers.step usable counted
      rw [flushed, List.nil_append] at output
      let later : Peer δ Parcel := { peer with
        round := after.onContext fun context => { context with output := [] }
        wire := peer.wire ++ after.context.output }
      have onward : later.round.Delivers later.role settings items
          (place.next settings.batchSize) :=
        next.onContext (fun context => { context with output := [] }) rfl rfl
      obtain ⟨others, going, last⟩ := ih onward rfl
      have calls : peer.sendAll (limit + 1) =
          (⟨.ok (place.chunk settings.batchSize).kind, after.context.output⟩ ::
            (later.sendAll limit).1, (later.sendAll limit).2) := by
        have dispatched : peer.round.dispatch peer.depot peer.role .send .message none =
            (.ok (place.chunk settings.batchSize).kind, after, peer.depot) := by
          simp only [Round.dispatch, sent]
        rw [sendAll, if_pos active, send_sent dispatched]
      rw [Option.elim_some, Place.chunks_eq inside, calls]
      refine ⟨?_, ?_, fun all => last (Nat.le_of_succ_le_succ all)⟩
      · rw [List.take_succ_cons, List.map_cons, output, others]
      · rw [going, List.length_cons]
        exact decide_eq_decide.mpr Nat.succ_lt_succ_iff.symm

/--
What is sent is what the header has announced.

Once a round that is not closing has sent its header, chunks go out until as many have been sent as
the header says, and every one of them is sent. They are those of the parcels in order: for each one
as many as announced, which are its body cut into batches, and only the last of them is final. In the
end the index stands on the last parcel.
-/
theorem sendAll_announced {kind : Markup} (usable : peer.round.context.settings.Usable)
    (opened : peer.round.context.close = false)
    (counts : peer.round.context.settings.Counts (peer.round.outgoing peer.role).items)
    (sent : (peer.send .header).1.result = .ok kind) (limit : Nat) :
    let settings := peer.round.context.settings
    let items := (peer.round.outgoing peer.role).items
    let start := (peer.send .header).2
    let header := start.round.outgoingHeader peer.role
    let pieces := items.map fun item => Parcel.batches settings.batchSize item.body
    let chunks := pieces.flatMap Parcel.sealing
    let calls := start.sendAll limit
    -- What the header says, and that this header has been sent.
    (peer.send .header).1.bytes = peer.round.context.output ++ Round.headerFrame settings header ∧
    List.Forall₂ (fun descriptor pieces => descriptor.chunks.toNat = pieces.length ∧
      descriptor.size = UInt64.ofNat pieces.flatten.length) header.items pieces ∧
    header.chunksCount.toNat = chunks.length ∧
    -- What is sent then.
    calls.1 = (chunks.take limit).map (fun chunk =>
      ⟨.ok chunk.kind, (settings.writer .message).sealed chunk.frame chunk.kind⟩) ∧
    calls.2.round.context.sending.active = decide (limit < chunks.length) ∧
    (chunks.length ≤ limit → calls.2.round.context.sending.item = items.length - 1) := by
  -- The header goes out first, and it says how many chunks will follow.
  obtain ⟨after, made⟩ : ∃ after, peer.round.sendHeader peer.role = (.ok kind, after) :=
    ⟨_, Prod.ext sent rfl⟩
  obtain ⟨countable, counted, announced, total, output, delivers⟩ :=
    Round.sendHeader_delivers usable.checked opened counts made
  rw [send_header made]
  intro settings items start header pieces chunks calls
  have positive : 0 < settings.batchSize := (Settings.check_ok usable.checked).2.1
  have same : header = after.outgoingHeader peer.role := by
    simp only [header, start]
    cases peer.role <;> rfl
  rw [← same] at announced total output
  -- The chunks of the parcels are the batches of their bodies.
  have whole : (Place.first items).elim [] (Place.chunks settings.batchSize) = chunks := by
    rw [Place.chunks_first]
    simp only [chunks, pieces, List.flatMap_map, Parcel.chunks_eq_batches positive]
  have onward : start.round.Delivers start.role settings items (Place.first items) :=
    delivers.onContext (fun context => { context with output := [] }) rfl rfl
  obtain ⟨answers, active, last⟩ := sendAll_delivers usable counted onward rfl limit
  rw [whole] at answers active last
  obtain ⟨sum, bounded⟩ := Parcel.totalChunks_announced positive counted
  refine ⟨output, ?_, ?_, answers, active, last⟩
  · rw [announced, List.forall₂_map_left_iff, List.forall₂_map_right_iff, List.forall₂_same]
    intro item member
    refine ⟨?_, ?_⟩
    · rw [Parcel.length_batches positive]
      exact UInt32.toNat_ofNat_of_lt' (counted item member)
    · rw [Parcel.flatten_batches]
      rfl
  · -- So few chunks, that the header can count them.
    have few : Header.totalChunks header.items < UInt64.size := by
      rw [announced]
      calc Header.totalChunks (items.map (Parcel.announced settings.batchSize))
          ≤ items.length * UInt32.size := bounded
        _ < UInt32.size * UInt32.size := Nat.mul_lt_mul_of_pos_right countable (by decide)
        _ = UInt64.size := rfl
    rw [total, UInt64.toNat_ofNat_of_lt' few, announced]
    exact sum

/-- A body that fills its batches, an empty one, and one with a short batch at the end. -/
theorem sendAll_announced_uneven :
    let settings : Settings := { batchSize := 4 }
    let items : List Parcel := [⟨"k", [1, 2, 3, 4, 5, 6, 7, 8]⟩, ⟨"l", []⟩, ⟨"m", [9, 10, 11, 12, 13]⟩]
    let peer : Peer MemoryDepot Parcel :=
      (Peer.initial .client { id := "a" } settings .unrestricted).act [.items items]
    let start := (peer.send .header).2
    let header := start.round.outgoingHeader .client
    let calls := start.sendAll 9
    settings.Usable ∧ peer.round.context.close = false ∧ settings.Counts items ∧
      (peer.send .header).1.result = .ok .final ∧
      header.items.map Descriptor.chunks = [2, 1, 2] ∧ header.chunksCount.toNat = 5 ∧
      calls.1 = [(⟨[1, 2, 3, 4], .block⟩ : Round.Inbound), ⟨[5, 6, 7, 8], .final⟩, ⟨[], .final⟩,
        ⟨[9, 10, 11, 12], .block⟩, ⟨[13], .final⟩].map (fun chunk =>
          ⟨.ok chunk.kind, (settings.writer .message).sealed chunk.frame chunk.kind⟩) ∧
      calls.2.round.context.sending.active = false ∧ calls.2.round.context.sending.item = 2 := by
  -- The chunks are computed, and they are those of the theorem.
  intro settings items peer start header calls
  have usable : settings.Usable := ⟨by decide +kernel, by decide, by decide⟩
  have opened : peer.round.context.close = false := rfl
  have counts : settings.Counts items := .inr (by decide)
  have sent : (peer.send .header).1.result = .ok .final := by decide +kernel
  have cut : ((peer.round.outgoing peer.role).items.map fun item =>
      Parcel.batches peer.round.context.settings.batchSize item.body).flatMap Parcel.sealing =
        [⟨[1, 2, 3, 4], .block⟩, ⟨[5, 6, 7, 8], .final⟩, ⟨[], .final⟩, ⟨[9, 10, 11, 12], .block⟩,
          ⟨[13], .final⟩] := by decide +kernel
  obtain ⟨_, _, total, answers, active, last⟩ := sendAll_announced usable opened counts sent 9
  rw [cut] at total answers active last
  exact ⟨usable, opened, counts, sent, by decide +kernel, total, answers, active, last (by decide)⟩

/--
An end with parcels whose number wraps around to zero sends a header that announces their chunks,
and then nothing.
-/
theorem sendAll_wrapping {role : Role} {kind : Markup} (played : peer.role = role)
    (clear : peer.round.context.Clear) (positive : 0 < peer.round.context.settings.batchSize)
    (current : (peer.round.outgoingHeader role).version = protocolVersion)
    (wraps : UInt32.ofNat (peer.round.outgoing role).items.length = 0)
    (sent : (peer.send .header).1.result = .ok kind) :
    let start := (peer.send .header).2
    let header := start.round.outgoingHeader role
    header.chunksCount = UInt64.ofNat (Header.totalChunks ((peer.round.outgoing role).items.map
        (Parcel.announced peer.round.context.settings.batchSize))) ∧
      ∀ limit, start.sendAll limit = ([], start) := by
  -- The role is that of the end.
  subst played
  obtain ⟨after, made⟩ : ∃ after, peer.round.sendHeader peer.role = (.ok kind, after) :=
    ⟨_, Prod.ext sent rfl⟩
  obtain ⟨header, announces, _, total, _, headed, _, _, idle⟩ :=
    Round.sendHeader_uncounted clear positive current wraps made
  rw [send_header made]
  intro start same
  have headed : same = header := by
    rw [← headed]
    simp only [same, start]
    cases peer.role <;> rfl
  rw [headed, total, announces.items]
  -- Taking the header out of the output starts no message.
  exact ⟨rfl, sendAll_idle idle⟩

/-- So many parcels that their number wraps around to zero: all are announced, and none is sent. -/
theorem sendAll_uncounted :
    let settings : Settings := { headerCapacity := Nat.pow 2 40 }
    let items : List Parcel := List.replicate UInt32.size ⟨"k", []⟩
    let peer : Peer MemoryDepot Parcel :=
      (Peer.initial .client { id := "a" } settings .unrestricted).act [.items items]
    let start := (peer.send .header).2
    settings.Usable ∧ peer.round.context.close = false ∧
      (peer.send .header).1.result = .ok .final ∧
      (start.round.outgoingHeader .client).chunksCount.toNat = 4294967296 ∧
      ∀ limit, start.sendAll limit = ([], start) := by
  -- So many parcels cannot be looked through: all there is to them is what is known of a crowd.
  intro settings items
  have crowd : items = Parcel.crowd := rfl
  clear_value items
  intro peer start
  have usable : settings.Usable := ⟨by decide +kernel, by decide, by decide⟩
  have positive : 0 < settings.batchSize := by decide
  have run : settings.runLength ≤ UInt32.size := by decide
  have named : (Identity.schema.binary.put { id := "a" }).length ≤ UInt32.size := by decide
  have wraps : UInt32.ofNat items.length = 0 := crowd ▸ Parcel.wraps_crowd
  obtain ⟨after, made⟩ : ∃ after, peer.round.sendHeader .client = (.ok .final, after) :=
    Round.sendHeader_crowd rfl positive rfl (Nat.le_refl _) run named rfl crowd
  have sent : (peer.send .header).1.result = .ok .final := by
    rw [send_header made]
  -- One chunk is announced for each parcel.
  have sum : Header.totalChunks (items.map (Parcel.announced settings.batchSize)) =
      UInt32.size := by
    rw [crowd, Parcel.announced_crowd, Header.totalChunks_replicate]
    exact Nat.mul_one _
  obtain ⟨total, nothing⟩ :=
    @sendAll_wrapping _ _ peer .client _ rfl ⟨rfl, rfl, rfl⟩ positive rfl wraps sent
  have begun : start = (peer.send .header).2 := rfl
  refine ⟨usable, rfl, sent, ?_, nothing⟩
  rw [begun, total]
  exact congrArg (fun chunks => (UInt64.ofNat chunks).toNat) sum

-- Settings whose chunks would take more bytes than a word can say pass the check all the same.
example :
    let settings : Settings :=
      { headerCapacity := 100, messageCapacity := 64, batchSize := Nat.pow 2 63 - 1, runLength := 2 }
    let peer : Peer MemoryDepot Parcel :=
      (Peer.initial .client { id := "a" } settings .unrestricted).act [.items [⟨"k", [1]⟩]]
    settings.check = .ok () ∧ (peer.send .header).1.result = .ok .final ∧
      ((peer.send .header).2.sendAll 2).1.map Sent.result = [.error (.noMemory (Nat.pow 2 63 - 1))] := by
  decide +kernel

end Peer

end SentinelRounds
