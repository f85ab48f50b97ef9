import SentinelRounds.Proofs.Depot.Memory
import SentinelRounds.Proofs.Round.Sending

/-! What the receiving half of a round makes of what the other end has sent. -/

namespace SentinelRounds

namespace Header

/-- A header that announces parcels with keys can be answered. -/
theorem Announces.check_eq {batch : Nat} {sender : Identity} {parcels : List Parcel}
    {header : Header} (announces : header.Announces batch sender parcels)
    (keyed : ∀ parcel ∈ parcels, parcel.key ≠ "")
    (counted : ∀ parcel ∈ parcels, parcel.chunkCount batch < UInt32.size)
    (countable : parcels.length < UInt32.size) : header.check = .ok () := by
  -- The version is the current one, so the count and the items are left.
  refine check_eq_ok_iff.mpr ⟨announces.version, ?_, ?_⟩
  · -- The count does not overflow.
    rw [announces.itemsCount, announces.items, List.length_map,
      UInt32.toNat_ofNat_of_lt' countable]
  · -- Every item has a key and a chunk.
    intro item member
    rw [announces.items] at member
    obtain ⟨parcel, among, rfl⟩ := List.mem_map.mp member
    have positive : 0 < parcel.chunkCount batch := Descriptor.chunkCount_pos _ _
    refine ⟨keyed parcel among, fun zero => ?_⟩
    have value := UInt32.toNat_ofNat_of_lt' (counted parcel among)
    rw [show UInt32.ofNat (parcel.chunkCount batch) = 0 from zero] at value
    exact Nat.ne_of_gt positive value.symm

/-- A header that announces parcels does not refuse the round. -/
theorem Announces.refusal_eq {batch : Nat} {sender : Identity} {parcels : List Parcel}
    {header : Header} (announces : header.Announces batch sender parcels) (role : Role) :
    header.refusal role = none := by
  -- Only a client looks at a denial, and there is none.
  cases role with
  | client => rw [refusal, announces.denied]; rfl
  | server => rfl

end Header

namespace Round

/-- Nothing that sending depends on or makes has changed, and nothing has gone wrong. -/
structure SameSending (role : Role) (before after : Round Parcel) : Prop where
  settings : after.context.settings = before.context.settings
  identity : after.context.identity = before.context.identity
  close : after.context.close = before.context.close
  denied : after.context.denied = before.context.denied
  errors : after.context.errors = before.context.errors
  sending : after.context.sending = before.context.sending
  output : after.context.output = before.context.output
  outgoing : after.outgoing role = before.outgoing role
  version : (after.outgoingHeader role).version = (before.outgoingHeader role).version

namespace SameSending

variable {role : Role}

/-- What two changes leave alone, both together leave alone. -/
theorem trans {first second third : Round Parcel} (front : SameSending role first second)
    (back : SameSending role second third) : SameSending role first third :=
  ⟨back.settings.trans front.settings, back.identity.trans front.identity,
    back.close.trans front.close, back.denied.trans front.denied,
    back.errors.trans front.errors, back.sending.trans front.sending,
    back.output.trans front.output,
    back.outgoing.trans front.outgoing, back.version.trans front.version⟩

/-- A round that stays clear. -/
theorem clear {before after : Round Parcel} (same : SameSending role before after)
    (clear : before.context.Clear) : after.context.Clear :=
  ⟨same.close.trans clear.close, same.denied.trans clear.denied, same.errors.trans clear.errors⟩

/-- A line in the outgoing notice is nothing that sending depends on. -/
theorem appendNotice (round : Round Parcel) (line : String) :
    SameSending role round (round.appendNotice role line) := by
  cases role <;> exact ⟨rfl, rfl, rfl, rfl, rfl, rfl, rfl, rfl, rfl⟩

end SameSending

/--
What a round has received of a message at a place: the parcels before it, a part of the one under
way, and only the keys of those after it.
-/
def received (batch : Nat) (place : Place) : List Parcel :=
  place.before ++ place.parcel.upTo batch place.index ::
    place.later.map fun parcel => ⟨parcel.key, []⟩

/-- A round that is receiving some parcels stands at a place among them, or has received them all. -/
structure Receives (role : Role) (batch : Nat) (sender : Identity) (items : List Parcel)
    (place : Option Place) (round : Round Parcel) : Prop where
  known : round.context.peer = some sender
  declared : (round.incoming role).inputChunks =
    items.map fun item => UInt32.ofNat (item.chunkCount batch)
  progress : match place with
    | none => (round.incoming role).items = items ∧ round.context.receiving.active = false ∧
      round.context.receiving.left = 0 ∧ round.context.signals.chunksReceived = true
    | some place => place.In batch items ∧ (round.incoming role).items = received batch place ∧
      round.context.receiving =
        { active := true, item := place.before.length, left := place.later.length + 1,
          chunk := place.index }

/-- A change to the context that leaves the peer and the incoming message alone. -/
theorem Receives.onContext {role : Role} {batch : Nat} {sender : Identity} {items : List Parcel}
    {place : Option Place} {round : Round Parcel}
    (receives : round.Receives role batch sender items place) (change : Context → Context)
    (known : (change round.context).peer = round.context.peer)
    (receiving : (change round.context).receiving = round.context.receiving)
    (signal : round.context.signals.chunksReceived = true →
      (change round.context).signals.chunksReceived = true) :
    (round.onContext change).Receives role batch sender items place := by
  -- Messages are no part of the context.
  have incoming : (round.onContext change).incoming role = round.incoming role := by
    cases role <;> rfl
  have far : (round.onContext change).context.receiving = round.context.receiving := receiving
  have progress := receives.progress
  refine ⟨known.trans receives.known, by rw [incoming]; exact receives.declared, ?_⟩
  -- At the end of a message its signal is set as well.
  cases place with
  | none =>
    obtain ⟨carried, idle, left, complete⟩ := progress
    rw [incoming, far]
    exact ⟨carried, idle, left, signal complete⟩
  | some place =>
    rw [incoming, far]
    exact progress

/-- A depot that welcomes a peer admits it, and keeps what it holds for it. -/
theorem welcome_admitted {depot : MemoryDepot} {identity : Identity}
    (welcomes : depot.Welcomes identity) :
    ∃ notice after, welcome depot identity = (.admitted notice, after) ∧
      after.targets.contains identity.id = true ∧
      ∀ key, after.get? identity.id key = depot.get? identity.id key := by
  -- A peer is known already, or it registers.
  unfold welcome
  by_cases contained : depot.targets.contains identity.id = true
  · have known : Depot.contains depot identity = true := contained
    rw [if_pos known]
    exact ⟨none, depot, rfl, contained, fun _ => rfl⟩
  · obtain ⟨notice, after, registered, place, kept⟩ :=
      MemoryDepot.register_admitted (welcomes.resolve_left contained)
    have unknown : ¬ Depot.contains depot identity = true := contained
    have answer : Depot.register depot identity = (.accepted notice, after) := registered
    have known : Depot.contains after identity = true := place
    rw [if_neg unknown, answer]
    simp only [if_pos known]
    exact ⟨_, _, rfl, place, kept⟩

/--
Of a round's context, expecting items changes how far the incoming message has come, and the signals
if there is nothing to wait for.
-/
theorem expect_eq {ι : Type} (round : Round ι) (role : Role) (header : Header) (items : List ι) :
    round.expect role header items =
      let idle := header.itemsCount.toNat = 0 ∨ round.context.close = true
      (round.setIncoming role ((round.incoming role).expect items
        (header.items.map Descriptor.chunks))).onContext fun context =>
          { context with
            receiving := { active := !decide idle, left := header.itemsCount.toNat }
            signals := if idle then context.signals.endMessage else context.signals } := by
  -- The two branches differ in the signals only.
  have pulled : ∀ (idle : Prop) [Decidable idle] (context : Context),
      (if idle then context.endMessage else context) =
        { context with
          signals := if idle then context.signals.endMessage else context.signals } := by
    intro idle _ context
    split <;> rfl
  simp only [expect, onContext, pulled]
  cases role <;> rfl

/-- Parcels that memory holds at one end are located at the other. -/
theorem locateAll_announced {batch : Nat} {sender : Identity} {items : List Parcel}
    {header : Header} {depot : MemoryDepot} (announces : header.Announces batch sender items)
    (stored : ∀ item ∈ items, item.body.length < allocationBound)
    (contained : depot.targets.contains sender.id = true) :
    Depot.locateAll depot header.identity header.items =
      .ok (items.map fun parcel => (⟨parcel.key, []⟩ : Parcel)) := by
  -- Words count more than memory can hold.
  have words : allocationBound < UInt64.size := by decide
  -- The announced sizes are the true ones, since memory is smaller than what words can count.
  have fits : MemoryDepot.Fits (items.map (Parcel.announced batch)) := by
    intro descriptor member
    obtain ⟨parcel, among, rfl⟩ := List.mem_map.mp member
    have short := stored parcel among
    rw [show (parcel.announced batch).size.toNat = parcel.body.length from
      UInt64.toNat_ofNat_of_lt' (Nat.lt_trans short words)]
    exact short
  -- Every announced item is made out of its key.
  rw [announces.identity, announces.items, MemoryDepot.locateAll_fits contained fits, List.map_map]
  rfl

/-- Announced parcels that can be located are expected from the first one on. -/
theorem acceptItems_announced (role : Role) {round : Round Parcel} {batch : Nat}
    {sender : Identity} {items : List Parcel} {header : Header} {depot : MemoryDepot}
    (announces : header.Announces batch sender items) (countable : items.length < UInt32.size)
    (stored : ∀ item ∈ items, item.body.length < allocationBound)
    (clear : round.context.Clear) (known : round.context.peer = some sender)
    (contained : depot.targets.contains sender.id = true) :
    let after := round.acceptItems depot role header
    after.Receives role batch sender items (Place.first items) ∧ SameSending role round after ∧
      after.incomingHeader role = round.incomingHeader role ∧
      after.context.intake = round.context.intake := by
  -- All the items are located, so the header is taken over.
  intro after
  have located := locateAll_announced announces stored contained
  -- The header says how many items there are, and how many chunks each has.
  have count : header.itemsCount.toNat = items.length := by
    rw [announces.itemsCount, UInt32.toNat_ofNat_of_lt' countable]
  have declared : header.items.map Descriptor.chunks =
      items.map fun item => UInt32.ofNat (item.chunkCount batch) := by
    rw [announces.items, List.map_map]
    rfl
  have expects : after = (round.onContext fun context => { context with denied := false }).expect
      role header (items.map fun parcel => ⟨parcel.key, []⟩) := by
    simp only [after, acceptItems, located]
  -- A round that is clear is not closing, so only a message of no items ends at once.
  have idle : (items.length = 0 ∨
      (round.onContext fun context => { context with denied := false }).context.close = true) ↔
        items = [] := by
    rw [List.length_eq_zero_iff]
    exact or_iff_left (by rw [Bool.not_eq_true]; exact clear.close)
  have denied := clear.denied
  simp only [expect_eq, count, declared, idle] at expects
  refine ⟨⟨?_, ?_, ?_⟩, ?_, ?_, ?_⟩
  · rw [expects]
    cases role <;> exact known
  · rw [expects]
    cases role <;> rfl
  · rw [expects]
    cases items with
    | nil => cases role <;> exact ⟨rfl, rfl, rfl, rfl⟩
    | cons parcel later =>
      refine ⟨Place.in_first batch rfl, ?_, ?_⟩
      · rw [received, Parcel.upTo_zero]
        cases role <;> rfl
      · simp only [onContext, reduceCtorEq, decide_false]
        rfl
  · rw [expects]
    cases role <;> exact ⟨rfl, rfl, rfl, denied.symm, rfl, rfl, rfl, rfl, rfl⟩
  · rw [expects]
    cases role <;> rfl
  · rw [expects]
    cases role <;> rfl

/-- A header that announces parcels is accepted from a peer that is welcome. -/
theorem receiveHeader_announced (role : Role) {round : Round Parcel} {batch : Nat}
    {sender : Identity} {items : List Parcel} {header : Header} {frame : Bytes}
    {depot : MemoryDepot}
    (read : readHeader round.context.settings.encoding frame = .ok header)
    (announces : header.Announces batch sender items) (countable : items.length < UInt32.size)
    (stored : ∀ item ∈ items, item.body.length < allocationBound)
    (clear : round.context.Clear) (welcomes : depot.Welcomes sender) :
    round.fatality depot role frame = none ∧
    ∃ after store, round.receiveHeader depot role frame = (after, store) ∧
      store.targets.contains sender.id = true ∧
      (∀ key, store.get? sender.id key = depot.get? sender.id key) ∧
      after.Receives role batch sender items (Place.first items) ∧ SameSending role round after ∧
      after.incomingHeader role = header ∧ after.context.intake = round.context.intake := by
  -- The peer is admitted, whether it is new or known.
  obtain ⟨notice, store, answer, contained, kept⟩ := welcome_admitted welcomes
  -- Nothing but the peer and the incoming header is adopted, since the header closes nothing.
  have closing : (round.context.close || header.close) = round.context.close := by
    rw [announces.close, Bool.or_false]
  have adopted : SameSending role round (round.adopt role header) := by
    cases role <;> exact ⟨rfl, rfl, closing, rfl, rfl, rfl, rfl, rfl, rfl⟩
  have known : (round.adopt role header).context.peer = some sender := by
    rw [← announces.identity]
    cases role <;> rfl
  have incoming : (round.adopt role header).incomingHeader role = header := by
    cases role <;> rfl
  have intake : (round.adopt role header).context.intake = round.context.intake := by
    cases role <;> rfl
  have located := locateAll_announced announces stored contained
  rw [← announces.identity] at answer
  refine ⟨by simp only [fatality, read, announces.refusal_eq, answer, located], ?_⟩
  simp only [receiveHeader, read, announces.refusal_eq, answer]
  -- What the depot has to say goes into the outgoing header, and nowhere else.
  cases notice with
  | none =>
    obtain ⟨receives, same, answered, unread⟩ := acceptItems_announced role announces countable stored
      (adopted.clear clear) known contained
    exact ⟨_, store, rfl, contained, kept, receives, adopted.trans same, answered.trans incoming,
      unread.trans intake⟩
  | some notice =>
    have noticed := adopted.trans (SameSending.appendNotice (round.adopt role header) notice)
    have still : ((round.adopt role header).appendNotice role notice).context.peer =
        some sender := by
      rw [← known]
      cases role <;> rfl
    have greeted : ((round.adopt role header).appendNotice role notice).incomingHeader role =
        header := by
      rw [← incoming]
      cases role <;> rfl
    have queued : ((round.adopt role header).appendNotice role notice).context.intake =
        round.context.intake := by
      rw [← intake]
      cases role <;> rfl
    obtain ⟨receives, same, answered, unread⟩ := acceptItems_announced role announces countable stored
      (noticed.clear clear) still contained
    exact ⟨_, store, rfl, contained, kept, receives, noticed.trans same, answered.trans greeted,
      unread.trans queued⟩

/-- How far an incoming message has come once an item is complete. -/
def passed (receiving : Receiving) : Receiving :=
  if receiving.left - 1 = 0 then { receiving with active := false, left := 0, chunk := 0 }
  else { receiving with left := receiving.left - 1, chunk := 0, item := receiving.item + 1 }

/--
Counting an item as received changes how far the incoming message has come, and tells of its end.
-/
theorem finishItem_eq (context : Context) :
    finishItem context = { context with
      receiving := passed context.receiving
      signals := if context.receiving.left - 1 = 0 then context.signals.set .chunksReceived
        else context.signals } := by
  -- Either this was the last item, or another one is to come.
  unfold finishItem passed
  split
  · rename_i last
    simp only [last, if_true, Context.raise]
  · rename_i more
    simp only [more, if_false]

/-- A chunk is appended to the parcel at the receive index, which is merged if it is complete. -/
theorem absorbChunk_eq (round : Round Parcel) (role : Role) (kind : Markup)
    {depot store : MemoryDepot} {sender : Identity} {parcel grown : Parcel} {frame : Bytes}
    (appended : { parcel with body := parcel.body ++ frame } = grown)
    (merged : depot.merge sender grown = (.ok (), store)) :
    round.absorbChunk depot role sender parcel frame kind =
      let index := round.context.receiving.item
      let count := round.context.receiving.chunk + 1
      let complete := kind = .final ∨ declaredChunks (round.incoming role).inputChunks index ≤ count
      let far := { round.context.receiving with chunk := count }
      ((round.setIncoming role { round.incoming role with
        items := (round.incoming role).items.set index grown, currentChunk := count }).onContext
          fun context => { context with
            itemIndex := index
            receiving := if complete then passed far else far
            signals := if complete ∧ far.left - 1 = 0 then context.signals.set .chunksReceived
              else context.signals },
        if complete then store else depot) := by
  -- The parcel has grown, and its merge is known.
  simp only [absorbChunk, Transferable.absorb, Depot.merge, appended, merged, onContext,
    finishItem_eq]
  -- A parcel that is not complete waits for its next chunk.
  by_cases complete : kind = .final ∨ declaredChunks (round.incoming role).inputChunks
      round.context.receiving.item ≤ round.context.receiving.chunk + 1
  · simp only [complete, if_true, true_and]
    cases role <;> exact if_pos complete
  · simp only [complete, if_false, false_and]
    cases role <;> exact if_neg complete

/-- What a round has received once the next chunk is in. -/
theorem set_received (batch : Nat) (place : Place) :
    (received batch place).set place.before.length
        (place.parcel.upTo batch (place.index + 1)) =
      place.before ++ place.parcel.upTo batch (place.index + 1) ::
        place.later.map fun parcel => ⟨parcel.key, []⟩ := by
  -- The parcel under way stands behind the ones before it.
  rw [received, List.set_append_right _ _ (Nat.le_refl _), Nat.sub_self]
  rfl

/-- Once a chunk is received, the message stands at the place after it, or is complete. -/
theorem received_progress {batch : Nat} {items : List Parcel} {place : Place}
    (inside : place.In batch items) (positive : 0 < batch) :
    let carried := (received batch place).set place.before.length
      (place.parcel.upTo batch (place.index + 1))
    let far : Receiving :=
      { active := true, item := place.before.length, left := place.later.length + 1,
        chunk := place.index + 1 }
    let after := if place.Closing batch then passed far else far
    match place.next batch with
    | none => carried = items ∧ after.active = false ∧ after.left = 0 ∧ place.Closing batch ∧
      far.left - 1 = 0
    | some other => other.In batch items ∧ carried = received batch other ∧ after =
      { active := true, item := other.before.length, left := other.later.length + 1,
        chunk := other.index } := by
  -- The place after this one is in the same message.
  intro carried far after
  have stays : ∀ other, place.next batch = some other → other.In batch items :=
    fun _ follows => inside.next follows
  -- Only the parcel under way grows.
  have grown : carried = place.before ++ place.parcel.upTo batch (place.index + 1) ::
      place.later.map fun parcel => ⟨parcel.key, []⟩ := set_received batch place
  have whole := inside.whole
  obtain ⟨before, parcel, index, later⟩ := place
  by_cases closing : Place.Closing batch ⟨before, parcel, index, later⟩
  · -- With its last chunk the parcel is whole, and the next one is up, if there is one.
    have all : parcel.upTo batch (index + 1) = parcel := Parcel.upTo_all positive closing
    have moved : after = passed far := if_pos closing
    simp only [all] at grown
    simp only [Place.next, if_pos closing] at stays ⊢
    cases later with
    | nil => exact ⟨grown.trans whole, by rw [moved]; rfl, by rw [moved]; rfl, closing, rfl⟩
    | cons other later =>
      refine ⟨stays _ rfl, ?_, ?_⟩
      · rw [grown, received, Parcel.upTo_zero, List.append_assoc]
        rfl
      · rw [moved, passed, List.length_append]
        rfl
  · -- Before it, the parcel goes on growing.
    have moved : after = far := if_neg closing
    simp only [Place.next, if_neg closing] at stays ⊢
    exact ⟨stays _ rfl, grown, moved⟩

/-- Once a chunk is received, all parcels before the place after it have been merged. -/
theorem stored_progress {batch : Nat} {items : List Parcel} {place : Place}
    (inside : place.In batch items) (positive : 0 < batch) (start : MemoryDepot)
    (sender : Identity) :
    (if place.Closing batch then ((start.mergeAll sender place.before).merge sender
      (place.parcel.upTo batch (place.index + 1))).2 else start.mergeAll sender place.before) =
        start.mergeAll sender ((place.next batch).elim items Place.before) := by
  -- The place after this one is in the same parcel, or in the next one.
  have whole := inside.whole
  obtain ⟨before, parcel, index, later⟩ := place
  unfold Place.next
  split
  · -- The parcel that is merged is the one that stood here, and it is whole.
    rename_i closing
    have all : parcel.upTo batch (index + 1) = parcel := Parcel.upTo_all positive closing
    simp only [all, ← MemoryDepot.mergeAll_concat]
    cases later with
    | nil => rw [← whole]; rfl
    | cons other later => rfl
  · rfl

/--
The next chunk of a round that is receiving brings it to the place after it, and a parcel that is
complete is merged.
-/
theorem Receives.step {role : Role} {batch : Nat} {sender : Identity} {items : List Parcel}
    {place : Place} {round : Round Parcel} {start depot : MemoryDepot}
    (receives : round.Receives role batch sender items (some place)) (positive : 0 < batch)
    (counted : ∀ item ∈ items, item.chunkCount batch < UInt32.size)
    (contained : start.targets.contains sender.id = true)
    (stored : depot = start.mergeAll sender place.before) :
    let chunk := place.chunk batch
    let next := place.next batch
    ∃ after, round.receiveMessage depot role chunk.frame chunk.kind =
        (after, start.mergeAll sender (next.elim items Place.before)) ∧
      after.Receives role batch sender items next ∧ SameSending role round after ∧
      after.incomingHeader role = round.incomingHeader role ∧
      after.context.intake = round.context.intake := by
  -- The round stands at a place of the message.
  intro chunk next
  obtain ⟨known, declared, inside, carried, receiving⟩ := receives
  -- The receive index points at the part of the parcel that has come so far.
  have here : (round.incoming role).items[place.before.length]? =
      some (place.parcel.upTo batch place.index) := by
    rw [carried, received, List.getElem?_append_right (Nat.le_refl _), Nat.sub_self]
    rfl
  have grown : { place.parcel.upTo batch place.index with
      body := (place.parcel.upTo batch place.index).body ++ chunk.frame } =
      place.parcel.upTo batch (place.index + 1) := place.parcel.upTo_succ batch place.index
  -- A chunk is taken for the last one exactly if it is, by its marker or by the count.
  have complete : (chunk.kind = .final ∨ declaredChunks (round.incoming role).inputChunks
      place.before.length ≤ place.index + 1) ↔ place.Closing batch := by
    rw [declared, declaredChunks_eq inside counted, Place.final_iff]
    exact or_self_iff
  -- No fault stands in the way of the chunk.
  have taken : round.receiveMessage depot role chunk.frame chunk.kind =
      round.absorbChunk depot role sender (place.parcel.upTo batch place.index) chunk.frame
        chunk.kind := by
    have left : ¬ round.context.receiving.left = 0 := by
      rw [receiving]
      exact Nat.succ_ne_zero _
    have index : round.context.receiving.item = place.before.length := by rw [receiving]
    rw [receiveMessage, if_neg left]
    simp only [known, index, here]
  -- The peer has its place, so merging succeeds.
  have placed := (MemoryDepot.mergeAll_contained contained place.before).1
  obtain ⟨store, merged, _, _⟩ := MemoryDepot.merge_contained placed
    (place.parcel.upTo batch (place.index + 1))
  rw [← stored] at merged
  have absorbed := absorbChunk_eq round role chunk.kind grown merged
  have progress := received_progress inside positive
  have kept := stored_progress inside positive start sender
  simp only [receiving, complete, carried] at absorbed
  rw [← stored, merged] at kept
  rw [kept] at absorbed
  refine ⟨_, taken.trans absorbed, ⟨?_, ?_, ?_⟩, ?_, ?_, ?_⟩
  · cases role <;> exact known
  · cases role <;> exact declared
  · simp only [next]
    cases follows : place.next batch with
    | none =>
      rw [follows] at progress
      obtain ⟨all, idle, left, closing, last⟩ := progress
      refine ⟨?_, idle, left, ?_⟩
      · cases role <;> exact all
      · exact (congrArg Signals.chunksReceived (if_pos ⟨closing, last⟩)).trans rfl
    | some other =>
      rw [follows] at progress
      obtain ⟨within, part, far⟩ := progress
      refine ⟨within, ?_, far⟩
      cases role <;> exact part
  · cases role <;> exact ⟨rfl, rfl, rfl, rfl, rfl, rfl, rfl, rfl, rfl⟩
  · cases role <;> rfl
  · cases role <;> rfl

end Round

end SentinelRounds
