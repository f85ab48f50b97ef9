import SentinelRounds.Proofs.Depot.Memory
import SentinelRounds.Proofs.Round.Recording

/-! Whatever chunks come in, they are cut into items one by one, each as long as it can be. -/

namespace SentinelRounds

namespace Header

/-- In a header that can be answered every item has a chunk. -/
theorem chunks_pos {header : Header} (checked : header.check = .ok ()) :
    ∀ item ∈ header.items, 0 < item.chunks.toNat := by
  -- The check of the header requires it of each item.
  intro item member
  have filled := ((check_eq_ok_iff.mp checked).items item member).filled
  exact Nat.pos_of_ne_zero fun zero => filled (UInt32.toNat_inj.mp zero)

end Header

namespace Round

/-- The chunks of a message: those of its complete items, those of the next one, and the others. -/
structure Segments where
  /-- For every item that is complete, its chunks. -/
  complete : List (List Inbound) := []
  /-- Chunks of the item that is not complete yet. -/
  current : List Inbound := []
  /-- Chunks that come when all items are complete. -/
  surplus : List Inbound := []
  deriving DecidableEq, Repr

/--
How many chunks an item takes that is declared with some: as many as declared, or fewer if one of
them is final.
-/
def extent (declared : Nat) (chunks : List Inbound) : Nat :=
  min (chunks.findIdx (fun chunk => chunk.kind = .final) + 1) declared

/-- The segments with one more complete item in front. -/
def Segments.cons (first : List Inbound) (segments : Segments) : Segments :=
  { segments with complete := first :: segments.complete }

/-- Cuts chunks into items that are declared with some chunks each: every item takes all it can. -/
def segment : (counts : List Nat) → List Inbound → Segments
  | [], chunks => { surplus := chunks }
  | declared :: counts, chunks =>
    let count := extent declared chunks
    if count ≤ chunks.length then (segment counts (chunks.drop count)).cons (chunks.take count)
    else { current := chunks }

namespace Segments

/-- The segments with one more chunk, which the item under way takes if there is one. -/
def push (counts : List Nat) (segments : Segments) (chunk : Inbound) : Segments :=
  match counts[segments.complete.length]? with
  | none => { segments with surplus := segments.surplus ++ [chunk] }
  | some declared =>
    let current := segments.current ++ [chunk]
    if chunk.kind = .final ∨ declared ≤ current.length then
      { segments with complete := segments.complete ++ [current], current := [] }
    else { segments with current }

/-- The chunks that an item has so far. -/
def chunksOf (segments : Segments) (index : Nat) : List Inbound :=
  (segments.complete ++ [segments.current])[index]?.getD []

/-- The announced items, each with the bytes of its chunks. -/
def parcels (segments : Segments) (items : List Descriptor) : List Parcel :=
  items.mapIdx fun index item => ⟨item.key, (segments.chunksOf index).flatMap Inbound.frame⟩

/-- The complete ones among the announced items. -/
def finished (segments : Segments) (items : List Descriptor) : List Parcel :=
  (segments.parcels items).take segments.complete.length

/-- How far a message of so many items has come. -/
def receiving (segments : Segments) (count : Nat) : Receiving :=
  -- The index stays on the last item when that is complete.
  { active := decide (segments.complete.length < count)
    item := min segments.complete.length (count - 1)
    left := count - segments.complete.length
    chunk := segments.current.length }

/-- A complete item in front changes nothing for the chunk that comes next. -/
theorem push_cons (declared : Nat) (counts : List Nat) (first : List Inbound)
    (segments : Segments) (chunk : Inbound) :
    (segments.push counts chunk).cons first =
      (segments.cons first).push (declared :: counts) chunk := by
  -- The count that bounds the item under way stands one place further.
  have shifted : (declared :: counts)[(segments.cons first).complete.length]? =
      counts[segments.complete.length]? := List.getElem?_cons_succ
  unfold push
  rw [shifted]
  cases counts[segments.complete.length]? with
  | none => rfl
  | some declared =>
    by_cases closing : chunk.kind = .final ∨ declared ≤ (segments.current ++ [chunk]).length
    · simp only [if_pos closing]
      exact (if_pos closing).symm
    · simp only [if_neg closing]
      exact (if_neg closing).symm

end Segments

section Greedy

variable {declared : Nat} {chunks : List Inbound} (chunk : Inbound)

/-- An item that is complete takes no more chunks. -/
theorem extent_concat_of_le (complete : extent declared chunks ≤ chunks.length) :
    extent declared (chunks ++ [chunk]) = extent declared chunks := by
  -- It has a final chunk among the first ones, or all the declared chunks.
  unfold extent at *
  rw [List.findIdx_append]
  split
  · rfl
  · omega

/-- An item that is not complete takes the next chunk, and may be complete with it. -/
theorem extent_concat_of_lt (more : chunks.length < extent declared chunks) :
    (chunks ++ [chunk]).length ≤ extent declared (chunks ++ [chunk]) ∧
      (extent declared (chunks ++ [chunk]) ≤ (chunks ++ [chunk]).length ↔
        chunk.kind = .final ∨ declared ≤ (chunks ++ [chunk]).length) := by
  -- None of the chunks before is final, and there are fewer than declared.
  unfold extent at *
  have none : ¬ chunks.findIdx (fun chunk => chunk.kind = .final) < chunks.length := by omega
  rw [List.findIdx_append, if_neg none, List.length_append, List.length_singleton]
  by_cases final : chunk.kind = .final
  · simp only [List.findIdx_singleton, final, decide_true, if_true, true_or, iff_true]
    omega
  · simp only [List.findIdx_singleton, final, decide_false, Bool.false_eq_true, if_false, false_or]
    omega

/-- Without chunks no item is complete. -/
theorem segment_nil {counts : List Nat} (positive : ∀ count ∈ counts, 0 < count) :
    segment counts [] = {} := by
  -- A first item would be complete only if it had no chunks.
  cases counts with
  | nil => rfl
  | cons declared counts =>
    have one : ¬ extent declared [] ≤ 0 := by
      have some := positive declared List.mem_cons_self
      rw [extent, List.findIdx_nil]
      omega
    exact if_neg one

/-- One more chunk goes to the item under way. -/
theorem segment_concat {counts : List Nat} (positive : ∀ count ∈ counts, 0 < count)
    (chunks : List Inbound) :
    segment counts (chunks ++ [chunk]) = (segment counts chunks).push counts chunk := by
  -- The items that are complete are passed over from the front.
  induction counts generalizing chunks with
  | nil => rfl
  | cons declared counts ih =>
    obtain ⟨_, later⟩ := List.forall_mem_cons.mp positive
    by_cases complete : extent declared chunks ≤ chunks.length
    · have longer : extent declared chunks ≤ (chunks ++ [chunk]).length := by
        rw [List.length_append]
        omega
      simp only [segment, extent_concat_of_le chunk complete, if_pos complete, if_pos longer]
      rw [List.take_append_of_le_length complete, List.drop_append_of_le_length complete, ih later]
      exact Segments.push_cons ..
    · -- The first item is under way, and the chunk is one of its own.
      obtain ⟨all, closing⟩ := extent_concat_of_lt chunk (Nat.lt_of_not_le complete)
      have here : (segment (declared :: counts) chunks) = { current := chunks } :=
        if_neg complete
      rw [here]
      simp only [segment, Segments.push, List.length_nil, List.getElem?_cons_zero, List.nil_append,
        ← closing]
      split
      · rw [List.take_of_length_le all, List.drop_of_length_le all, segment_nil later]
        rfl
      · rfl

/-- When all items are complete, no item takes any more chunks. -/
theorem segment_append_surplus {counts : List Nat} (positive : ∀ count ∈ counts, 0 < count)
    {chunks : List Inbound} (done : counts.length ≤ (segment counts chunks).complete.length)
    (more : List Inbound) :
    segment counts (chunks ++ more) =
      { segment counts chunks with surplus := (segment counts chunks).surplus ++ more } := by
  -- By induction on the chunks that come too late, from the last one.
  induction more using List.reverseRecOn with
  | nil => rw [List.append_nil, List.append_nil]
  | append_singleton more chunk ih =>
    rw [← List.append_assoc, segment_concat chunk positive, ih, ← List.append_assoc]
    simp only [Segments.push, List.getElem?_eq_none done]

/-- No more items are complete than there are, and while one is not, there is no surplus. -/
theorem segment_within {counts : List Nat} (positive : ∀ count ∈ counts, 0 < count)
    (chunks : List Inbound) :
    (segment counts chunks).complete.length ≤ counts.length ∧
      ((segment counts chunks).complete.length < counts.length →
        (segment counts chunks).surplus = []) := by
  -- By induction on the chunks, from the last one, which pushes at most one item.
  induction chunks using List.reverseRecOn with
  | nil =>
    rw [segment_nil positive]
    exact ⟨Nat.zero_le _, fun _ => rfl⟩
  | append_singleton chunks chunk ih =>
    rw [segment_concat chunk positive]
    unfold Segments.push
    cases here : counts[(segment counts chunks).complete.length]? with
    | none =>
      exact ⟨ih.1, fun more => absurd more (Nat.not_lt_of_le (List.getElem?_eq_none_iff.mp here))⟩
    | some declared =>
      have within := (List.getElem?_eq_some_iff.mp here).1
      simp only
      split
      · refine ⟨?_, fun _ => ih.2 within⟩
        rw [List.length_append]
        exact within
      · exact ⟨ih.1, ih.2⟩

end Greedy

namespace Segments

variable (segments : Segments) {items : List Descriptor} {item : Descriptor}

/-- Before any chunk has come the items are empty. -/
theorem parcels_empty (items : List Descriptor) :
    ({} : Segments).parcels items = items.map fun item => ⟨item.key, []⟩ := by
  -- No item has chunks.
  have nothing : ∀ index, ({} : Segments).chunksOf index = [] := fun index => by
    cases index <;> rfl
  apply List.ext_getElem?
  intro index
  simp only [parcels, nothing, List.flatMap_nil, List.getElem?_mapIdx, List.getElem?_map]

/-- The item under way has the bytes of the chunks under way. -/
theorem getElem?_parcels (here : items[segments.complete.length]? = some item) :
    (segments.parcels items)[segments.complete.length]? =
      some ⟨item.key, segments.current.flatMap Inbound.frame⟩ := by
  -- Behind the complete items, the current chunks are the ones of the next item.
  rw [parcels, List.getElem?_mapIdx, here]
  simp only [chunksOf, List.getElem?_concat_length, Option.map_some, Option.getD_some]

/-- A chunk is appended to the item under way. -/
theorem parcels_grow (here : items[segments.complete.length]? = some item) (chunk : Inbound) :
    ({ segments with current := segments.current ++ [chunk] } : Segments).parcels items =
      (segments.parcels items).set segments.complete.length
        ⟨item.key, segments.current.flatMap Inbound.frame ++ chunk.frame⟩ := by
  -- The lists are compared item by item, of which one has grown.
  apply List.ext_getElem?
  intro index
  by_cases same : segments.complete.length = index
  · subst same
    have grown := getElem?_parcels { segments with current := segments.current ++ [chunk] } here
    have found := getElem?_parcels segments here
    have within := (List.getElem?_eq_some_iff.mp found).1
    rw [List.getElem?_set_self within]
    refine grown.trans ?_
    rw [List.flatMap_append, List.flatMap_singleton]
  · -- The chunks of the other items stay as they are.
    rw [List.getElem?_set_ne same]
    have others : ({ segments with current := segments.current ++ [chunk] } : Segments).chunksOf
        index = segments.chunksOf index := by
      simp only [chunksOf, List.getElem?_append, List.getElem?_singleton]
      split
      · rfl
      · rw [if_neg (by omega), if_neg (by omega)]
    rw [parcels, parcels, List.getElem?_mapIdx, List.getElem?_mapIdx, others]

/-- An item that is complete keeps its bytes, and the next one has none. -/
theorem parcels_complete (items : List Descriptor) :
    ({ segments with complete := segments.complete ++ [segments.current], current := [] } :
      Segments).parcels items = segments.parcels items := by
  -- Which chunks belong to an item does not depend on whether it is complete.
  have same : ∀ index, ({ segments with
      complete := segments.complete ++ [segments.current], current := [] } : Segments).chunksOf
        index = segments.chunksOf index := by
    intro index
    unfold chunksOf
    by_cases inside : index < (segments.complete ++ [segments.current]).length
    · rw [List.getElem?_append_left inside]
    · have outside := Nat.le_of_not_lt inside
      rw [List.getElem?_append_right outside, List.getElem?_eq_none outside]
      cases index - (segments.complete ++ [segments.current]).length <;> rfl
  simp only [parcels, same]

/-- A chunk of the item under way leaves alone those that are complete. -/
theorem finished_grow (here : items[segments.complete.length]? = some item) (chunk : Inbound) :
    ({ segments with current := segments.current ++ [chunk] } : Segments).finished items =
      segments.finished items := by
  -- The item that grows stands behind the ones that are complete.
  unfold finished
  rw [parcels_grow segments here chunk]
  exact List.take_set_of_le (Nat.le_refl _)

/-- The item that becomes complete is the next one of them. -/
theorem finished_complete (here : items[segments.complete.length]? = some item) :
    ({ segments with complete := segments.complete ++ [segments.current], current := [] } :
      Segments).finished items =
        segments.finished items ++ [⟨item.key, segments.current.flatMap Inbound.frame⟩] := by
  -- One more item is taken, and it has the chunks that were current.
  unfold finished
  rw [parcels_complete, List.length_append, List.length_singleton, List.take_add_one,
    getElem?_parcels segments here]
  rfl

/-- A message whose item under way becomes complete comes as far as its segments then say. -/
theorem passed_receiving {count : Nat} (within : segments.complete.length < count) :
    passed (segments.receiving count) =
      ({ segments with complete := segments.complete ++ [segments.current], current := [] } :
        Segments).receiving count := by
  -- The item that became complete was the last one, or another one follows.
  unfold passed receiving
  simp only [List.length_append, List.length_singleton, List.length_nil]
  split
  · -- The index stays on the last item.
    rw [decide_eq_false (by omega)]
    congr 1 <;> omega
  · rw [decide_eq_true within, decide_eq_true (by omega)]
    congr 1
    omega

end Segments

/-- A chunk of an item that is awaited is appended to it, and the item is merged if complete. -/
theorem receiveMessage_awaited (role : Role) {round : Round Parcel}
    {ledger : Recorded MemoryDepot Parcel} {peer : Identity} {parcel : Parcel} (chunk : Inbound)
    (left : round.context.receiving.left ≠ 0) (known : round.context.peer = some peer)
    (found : (round.incoming role).items[round.context.receiving.item]? = some parcel)
    (contained : ledger.depot.targets.contains peer.id = true) :
    let grown : Parcel := { parcel with body := parcel.body ++ chunk.frame }
    let next := (round.hold role grown).count role
    round.receiveMessage ledger role chunk.frame chunk.kind =
      if next.Completes role chunk.kind then
        (next.onContext finishItem,
          ⟨(ledger.depot.merge peer grown).2, ledger.merges ++ [(peer, grown)]⟩)
      else (next, ledger) := by
  -- Each test on the way to the item is passed, and the depot knows the peer.
  intro grown next
  obtain ⟨store, merged, _, _⟩ := MemoryDepot.merge_contained contained grown
  have noted : Depot.merge ledger peer grown =
      (.ok (), (⟨store, ledger.merges ++ [(peer, grown)]⟩ : Recorded MemoryDepot Parcel)) := by
    simp only [Depot.merge, merged]
  rw [receiveMessage, if_neg left]
  simp only [known, found, absorbChunk_eq_hold, Transferable.absorb]
  rw [noted, merged]

/--
A round and its depot after some chunks of a message, cut into segments: the items and the counters
are as the segments say, and the complete items have been merged, each once and in order.
-/
structure Segmented (role : Role) (peer : Identity) (items : List Descriptor)
    (first : Round Parcel) (store : MemoryDepot) (segments : Segments) (round : Round Parcel)
    (ledger : Recorded MemoryDepot Parcel) : Prop where
  known : round.context.peer = some peer
  declared : (round.incoming role).inputChunks = items.map Descriptor.chunks
  parcels : (round.incoming role).items = segments.parcels items
  receiving : round.context.receiving = segments.receiving items.length
  signal : round.context.signals.chunksReceived =
    (first.context.signals.chunksReceived || decide (items.length ≤ segments.complete.length))
  errors : round.context.errors = first.context.errors + UInt32.ofNat segments.surplus.length
  merges : ledger.merges = (segments.finished items).map (peer, ·)
  depot : ledger.depot = store.mergeAll peer (segments.finished items)

namespace Segmented

variable {role : Role} {peer : Identity} {items : List Descriptor} {first : Round Parcel}
  {store : MemoryDepot} {segments : Segments} {round : Round Parcel}
  {ledger : Recorded MemoryDepot Parcel}
  (cut : Segmented role peer items first store segments round ledger)
include cut

/-- When all items are complete, a chunk is a fault. -/
theorem surplus (done : items.length ≤ segments.complete.length) (chunk : Inbound) :
    let after := round.receiveMessage ledger role chunk.frame chunk.kind
    Segmented role peer items first store { segments with surplus := segments.surplus ++ [chunk] }
      after.1 after.2 := by
  -- Nothing is awaited, so the chunk becomes a fault and changes nothing else.
  intro after
  have left : round.context.receiving.left = 0 := by
    rw [cut.receiving]
    exact Nat.sub_eq_zero_of_le done
  have taken : after = (round.fault role (.unexpectedChunk round.context.receiving.item), ledger) :=
    if_pos left
  have receiving : ({ round.context.receiving with active := false } : Receiving) =
      segments.receiving items.length := by
    rw [cut.receiving, Segments.receiving, decide_eq_false (Nat.not_lt_of_le done)]
  rw [taken]
  -- Only the message, the signal and the errors are touched by a fault.
  refine ⟨?_, ?_, ?_, ?_, ?_, ?_, cut.merges, cut.depot⟩
  · rw [← cut.known]
    cases role <;> rfl
  · rw [← cut.declared]
    cases role <;> rfl
  · have same : (round.fault role (.unexpectedChunk round.context.receiving.item)).incoming role =
        round.incoming role := by cases role <;> rfl
    rw [same]
    exact cut.parcels
  · refine Eq.trans ?_ receiving
    cases role <;> rfl
  · -- The end of the message is told, and the fault is counted.
    rw [signals_fault, decide_eq_true done, Bool.or_true]
    rfl
  · rw [errors_fault, cut.errors, List.length_append, List.length_singleton, UInt32.ofNat_add,
      UInt32.add_assoc]
    rfl

section Awaited

variable {item : Descriptor} (here : items[segments.complete.length]? = some item)
include here

/-- The receive index stands on the item under way, which has the bytes that have come for it. -/
theorem awaits : round.context.receiving.item = segments.complete.length ∧
    round.context.receiving.left ≠ 0 ∧ (round.incoming role).items[segments.complete.length]? =
      some ⟨item.key, segments.current.flatMap Inbound.frame⟩ := by
  -- There is an item under way, so the index has not reached its bound.
  have within := (List.getElem?_eq_some_iff.mp here).1
  rw [cut.receiving, cut.parcels]
  refine ⟨?_, ?_, segments.getElem?_parcels here⟩
  · exact Nat.min_eq_left (by omega)
  · exact Nat.sub_ne_zero_of_lt within

/-- A chunk of an item that is awaited is appended to it and counted. -/
theorem counted (chunk : Inbound) :
    let grown : Parcel :=
      ⟨item.key, segments.current.flatMap Inbound.frame ++ chunk.frame⟩
    Segmented role peer items first store { segments with current := segments.current ++ [chunk] }
      ((round.hold role grown).count role) ledger := by
  -- Holding the item and counting the chunk each change one part of the message.
  intro grown
  obtain ⟨index, -, -⟩ := cut.awaits here
  have parcels : (round.incoming role).items.set round.context.receiving.item grown =
      ({ segments with current := segments.current ++ [chunk] } : Segments).parcels items := by
    rw [segments.parcels_grow here chunk, cut.parcels, index]
  have receiving : ({ round.context.receiving with
      chunk := round.context.receiving.chunk + 1 } : Receiving) =
        ({ segments with current := segments.current ++ [chunk] } : Segments).receiving
          items.length := by
    rw [cut.receiving]
    simp only [Segments.receiving, List.length_append, List.length_singleton]
  refine ⟨?_, ?_, ?_, ?_, ?_, ?_, ?_, ?_⟩
  · -- The peer, the declared chunks, the items and the counters come first.
    rw [← cut.known]
    cases role <;> rfl
  · rw [← cut.declared]
    cases role <;> rfl
  · rw [← parcels]
    cases role <;> rfl
  · rw [← receiving]
    cases role <;> rfl
  · -- Neither the signal nor the errors have changed.
    refine Eq.trans ?_ cut.signal
    cases role <;> rfl
  · refine Eq.trans ?_ cut.errors
    cases role <;> rfl
  · -- Nothing is merged before the item is complete.
    rw [segments.finished_grow here]
    exact cut.merges
  · rw [segments.finished_grow here]
    exact cut.depot

/-- An item that is complete is merged, and the next one is up, if there is one. -/
theorem completed :
    let parcel : Parcel := ⟨item.key, segments.current.flatMap Inbound.frame⟩
    Segmented role peer items first store
      { segments with complete := segments.complete ++ [segments.current], current := [] }
      (round.onContext finishItem)
      ⟨(ledger.depot.merge peer parcel).2, ledger.merges ++ [(peer, parcel)]⟩ := by
  -- The next item begins where the index then stands, unless this one was the last.
  intro parcel
  have within := (List.getElem?_eq_some_iff.mp here).1
  have context : (round.onContext finishItem).context = finishItem round.context := rfl
  have incoming : (round.onContext finishItem).incoming role = round.incoming role := by
    cases role <;> rfl
  rw [finishItem_eq] at context
  refine ⟨?_, ?_, ?_, ?_, ?_, ?_, ?_, ?_⟩
  · rw [context]
    exact cut.known
  · rw [incoming]
    exact cut.declared
  · rw [incoming, segments.parcels_complete]
    exact cut.parcels
  · rw [context, ← segments.passed_receiving within, cut.receiving]
  · -- The end of the last item is told, and no other.
    have signal := cut.signal
    rw [decide_eq_false (Nat.not_le_of_lt within), Bool.or_false] at signal
    have left : round.context.receiving.left = items.length - segments.complete.length := by
      rw [cut.receiving, Segments.receiving]
    have told := congrArg Context.signals context
    simp only [List.length_append, List.length_singleton]
    by_cases last : round.context.receiving.left - 1 = 0
    · rw [told, if_pos last, decide_eq_true (by omega), Bool.or_true]
      rfl
    · rw [told, if_neg last, decide_eq_false (by omega), Bool.or_false]
      exact signal
  · rw [context]
    exact cut.errors
  · rw [segments.finished_complete here, List.map_append, ← cut.merges]
    rfl
  · rw [segments.finished_complete here, MemoryDepot.mergeAll_concat, ← cut.depot]

/-- A chunk goes to the item that is awaited. -/
theorem awaited (contained : store.targets.contains peer.id = true) (chunk : Inbound) :
    let after := round.receiveMessage ledger role chunk.frame chunk.kind
    let current := segments.current ++ [chunk]
    Segmented role peer items first store
      (if chunk.kind = .final ∨ item.chunks.toNat ≤ current.length then
        { segments with complete := segments.complete ++ [current], current := [] }
      else { segments with current }) after.1 after.2 := by
  -- The chunk is held and counted, and then the item may be complete.
  intro after current
  obtain ⟨index, left, found⟩ := cut.awaits here
  -- The peer has its place, whatever has been merged for it.
  have placed : ledger.depot.targets.contains peer.id = true := by
    rw [cut.depot]
    exact (MemoryDepot.mergeAll_contained contained _).1
  rw [← index] at found
  have taken := receiveMessage_awaited role chunk left cut.known found placed
  have counted := cut.counted here chunk
  -- The round counts the chunks that are declared for this item.
  have declared : declaredChunks (items.map Descriptor.chunks) segments.complete.length =
      item.chunks.toNat := by
    simp only [declaredChunks, List.getElem?_map, here, Option.map_some]
  have closes : ((round.hold role ⟨item.key,
      segments.current.flatMap Inbound.frame ++ chunk.frame⟩).count role).Completes role chunk.kind ↔
        chunk.kind = .final ∨ item.chunks.toNat ≤ current.length := by
    have counts := (counted.awaits here).1
    unfold Completes
    rw [counted.declared, counts, counted.receiving, declared]
    rfl
  simp only [closes] at taken
  have merged := counted.completed here
  rw [List.flatMap_append, List.flatMap_singleton] at merged
  simp only [after, taken]
  split
  · exact merged
  · exact counted

end Awaited

/-- Whatever chunk comes next, it goes where the segments put it. -/
theorem step (contained : store.targets.contains peer.id = true) (chunk : Inbound) :
    let after := round.receiveMessage ledger role chunk.frame chunk.kind
    Segmented role peer items first store
      (segments.push (items.map fun item => item.chunks.toNat) chunk) after.1 after.2 := by
  -- There is an item under way, or all of them are complete.
  intro after
  unfold Segments.push
  rw [List.getElem?_map]
  cases here : items[segments.complete.length]? with
  | none => exact cut.surplus (List.getElem?_eq_none_iff.mp here) chunk
  | some item => exact cut.awaited here contained chunk

end Segmented

/-- So do any number of chunks, from the first one on. -/
theorem Segmented.receiveChunks {role : Role} {peer : Identity} {items : List Descriptor}
    {first : Round Parcel} {store : MemoryDepot}
    (cut : Segmented role peer items first store {} first ⟨store, []⟩)
    (contained : store.targets.contains peer.id = true)
    (positive : ∀ item ∈ items, 0 < item.chunks.toNat) (chunks : List Inbound) :
    let after := first.receiveChunks role (⟨store, []⟩ : Recorded MemoryDepot Parcel) chunks
    Segmented role peer items first store
      (segment (items.map fun item => item.chunks.toNat) chunks) after.1 after.2 := by
  -- The segments are those of a whole message, cut by one step for each chunk.
  have counts : ∀ count ∈ items.map (fun item => item.chunks.toNat), 0 < count :=
    List.forall_mem_map.mpr positive
  -- The last chunk is received after all the others, which have been cut already.
  induction chunks using List.reverseRecOn with
  | nil =>
    rw [segment_nil counts]
    exact cut
  | append_singleton chunks chunk ih =>
    rw [segment_concat chunk counts, receiveChunks_concat]
    exact ih.step contained chunk

/-- A header that is taken over makes a round receive the items that it announces. -/
theorem segmented_receiveHeader {role : Role} {round : Round Parcel} {depot : MemoryDepot}
    {frame : Bytes} {after : Round Parcel} {store : MemoryDepot}
    (returned : round.fatality depot role frame = none)
    (received : round.receiveHeader depot role frame = (after, store))
    (staying : after.context.close = false) (announces : (after.incomingHeader role).items ≠ []) :
    let header := after.incomingHeader role
    store.targets.contains header.identity.id = true ∧
      (∀ item ∈ header.items, 0 < item.chunks.toNat) ∧
      Segmented role header.identity header.items after store {} after ⟨store, []⟩ := by
  -- A header that announces items and stays open was welcome and checked.
  intro header
  obtain ⟨base, found, checked, adopts, located, taken⟩ :=
    receiveHeader_staying returned received staying announces
  have located : Depot.locateAll store header.identity header.items = .ok found := located
  -- The items could be located, so the peer has a place, and they are empty.
  have contained := MemoryDepot.contains_of_locateAll announces located
  obtain rfl := MemoryDepot.eq_of_locateAll located
  have some : 0 < header.items.length := List.length_pos_iff.mpr announces
  refine ⟨contained, Header.chunks_pos checked, ⟨?_, ?_, ?_, ?_, ?_, ?_, rfl, rfl⟩⟩
  · rw [taken, ← adopts.peer]
    cases role <;> rfl
  · rw [taken]
    cases role <;> rfl
  · rw [Segments.parcels_empty, taken]
    cases role <;> rfl
  · rw [taken, Segments.receiving, List.length_nil, decide_eq_true some, Nat.zero_min]
    rfl
  · rw [List.length_nil, decide_eq_false (Nat.not_le_of_lt some), Bool.or_false]
  · exact (UInt32.add_zero _).symm

/--
The chunks of a message are cut into items greedily.

After a header that announces items and closes nothing, whatever chunks come in: every item takes the
chunks after those of the item before it, up to its first final one or as many as declared, and has
their bytes. The items that are complete have been merged, each once and in order; what remains to be
received is the others. Chunks that come after all items are faults and change no item.
-/
theorem receiveChunks_segments (role : Role) {round : Round Parcel} (depot : MemoryDepot)
    {frame : Bytes} {header : Header}
    (read : readHeader round.context.settings.encoding frame = .ok header)
    (returned : round.fatality depot role frame = none) (announces : header.items ≠ [])
    (staying : (round.receiveHeader depot role frame).1.context.close = false)
    (chunks : List Inbound) :
    let first := (round.receiveHeader depot role frame).1
    let store := (round.receiveHeader depot role frame).2
    let counts := header.items.map fun item => item.chunks.toNat
    let segments := segment counts chunks
    let complete := segments.complete.length
    let left := header.items.length - complete
    let ledger : Recorded MemoryDepot Parcel := { depot := store }
    let after := first.receiveChunks role ledger chunks
    -- The items, and what has been merged of them.
    (after.1.incoming role).items = header.items.mapIdx (fun index item =>
      ⟨item.key, ((segments.complete ++ [segments.current])[index]?.getD []).flatMap
        Inbound.frame⟩) ∧
    after.2.merges = ((after.1.incoming role).items.take complete).map (header.identity, ·) ∧
    after.2.depot =
      store.mergeAll header.identity ((after.1.incoming role).items.take complete) ∧
    (∀ id key, after.2.depot.get? id key =
      if id = header.identity.id then
        (MemoryDepot.lastOf ((after.1.incoming role).items.take complete) key).or
          (store.get? id key)
      else store.get? id key) ∧
    -- How far the message has come.
    complete ≤ header.items.length ∧
    after.1.context.receiving =
      { active := decide (left ≠ 0)
        item := min complete (header.items.length - 1)
        left := left
        chunk := segments.current.length } ∧
    after.1.context.signals.chunksReceived =
      (first.context.signals.chunksReceived || decide (left = 0)) ∧
    -- Chunks that come too late.
    after.1.context.errors = first.context.errors + UInt32.ofNat segments.surplus.length ∧
    (left = 0 → ∀ more, segment counts (chunks ++ more) =
      { segments with surplus := segments.surplus ++ more }) ∧
    (left ≠ 0 → segments.surplus = []) ∧
    -- The record of what is merged changes nothing.
    first.receiveChunks role store chunks = (after.1, after.2.depot) := by
  -- The run is cut as its chunks are, and the conclusions are read off the segments.
  intro first store counts segments complete left ledger after
  have headed : first.incomingHeader role = header :=
    incomingHeader_receiveHeader depot role read
  have received : round.receiveHeader depot role frame = (first, store) := rfl
  have accepted := segmented_receiveHeader returned received staying (by rw [headed]; exact announces)
  rw [headed] at accepted
  obtain ⟨contained, positive, initially⟩ := accepted
  -- The header leaves nothing received, and each chunk is then cut by one step.
  have cut : Segmented role header.identity header.items first store segments after.1 after.2 :=
    initially.receiveChunks contained positive chunks
  have every : ∀ count ∈ counts, 0 < count := List.forall_mem_map.mpr positive
  have length : counts.length = header.items.length := List.length_map _
  obtain ⟨within, early⟩ := segment_within every chunks
  rw [length] at within early
  -- The counters are stated with what is left, and the segments count what is complete.
  have receiving : segments.receiving header.items.length =
      { active := decide (left ≠ 0)
        item := min complete (header.items.length - 1)
        left := left
        chunk := segments.current.length } := by
    rw [Segments.receiving]
    congr 1
    exact decide_eq_decide.mpr Nat.sub_ne_zero_iff_lt.symm
  refine ⟨cut.parcels, ?_, ?_, ?_, within, cut.receiving.trans receiving, ?_, cut.errors, ?_, ?_,
    receiveChunks_recorded role first ledger chunks⟩
  · -- The merges and the depot are those of the finished items.
    rw [cut.parcels]
    exact cut.merges
  · rw [cut.parcels]
    exact cut.depot
  · intro id key
    rw [cut.parcels, cut.depot]
    exact MemoryDepot.get?_mergeAll contained _ id key
  · -- The signal is raised at the end of the last item.
    rw [cut.signal]
    congr 1
    exact decide_eq_decide.mpr Nat.sub_eq_zero_iff_le.symm
  · -- What is left counts the items that are not complete.
    intro nothing
    apply segment_append_surplus every
    rw [length]
    exact Nat.sub_eq_zero_iff_le.mp nothing
  · intro something
    exact early (Nat.sub_ne_zero_iff_lt.mp something)

/--
Three items arrive otherwise than announced: the first one ends early, the second one has its chunks
but no final one, the third one is an empty frame; and there is a chunk too many.
-/
theorem receiveChunks_segments_unannounced :
    let header : Header :=
      { identity := { id := "a" }, items := [⟨"k", 9, 3⟩, ⟨"l", 4, 2⟩, ⟨"m", 1, 1⟩], itemsCount := 3,
        chunksCount := 6 }
    let round : Round Parcel := .ofContext (.initial { id := "s" } {})
    let frame := Encoding.binary.encode Header.schema header
    let first := (round.receiveHeader MemoryDepot.unrestricted .server frame).1
    let store := (round.receiveHeader MemoryDepot.unrestricted .server frame).2
    let chunks : List Inbound :=
      [⟨[1, 2], .block⟩, ⟨[3], .final⟩, ⟨[4], .block⟩, ⟨[5], .block⟩, ⟨[], .block⟩, ⟨[6], .final⟩]
    let ledger : Recorded MemoryDepot Parcel := { depot := store }
    let after := first.receiveChunks .server ledger chunks
    readHeader round.context.settings.encoding frame = .ok header ∧
      round.fatality MemoryDepot.unrestricted .server frame = none ∧ header.items ≠ [] ∧
      first.context.close = false ∧
      segment [3, 2, 1] chunks =
        { complete := [[⟨[1, 2], .block⟩, ⟨[3], .final⟩], [⟨[4], .block⟩, ⟨[5], .block⟩],
            [⟨[], .block⟩]]
          surplus := [⟨[6], .final⟩] } ∧
      (after.1.incoming .server).items = [⟨"k", [1, 2, 3]⟩, ⟨"l", [4, 5]⟩, ⟨"m", []⟩] ∧
      after.2.merges.map (·.2.key) = ["k", "l", "m"] ∧
      after.2.depot.get? "a" "k" = some ⟨"k", [1, 2, 3]⟩ ∧
      after.2.depot.get? "a" "l" = some ⟨"l", [4, 5]⟩ ∧
      after.2.depot.get? "a" "m" = some ⟨"m", []⟩ ∧ after.2.depot.get? "b" "k" = none ∧
      after.1.context.receiving = { active := false, item := 2, left := 0, chunk := 0 } ∧
      after.1.context.errors = 1 := by
  -- The theorem gives the segments, and the rest is evaluated.
  intro header round frame first store chunks ledger after
  -- What round and frame these are matters only where something is computed from them.
  have fresh : round = .ofContext (.initial { id := "s" } {}) := rfl
  have encoded : frame = Encoding.binary.encode Header.schema header := rfl
  clear_value round frame
  have read : readHeader round.context.settings.encoding frame = .ok header := by
    subst fresh encoded
    decide +kernel
  have returned : round.fatality MemoryDepot.unrestricted .server frame = none := by
    subst fresh encoded
    decide +kernel
  have announces : header.items ≠ [] := by decide
  have staying : first.context.close = false := by
    subst fresh encoded
    decide +kernel
  obtain ⟨items, merges, _, found, _, receiving, _, errors, _⟩ :=
    receiveChunks_segments .server MemoryDepot.unrestricted read returned announces staying chunks
  refine ⟨read, returned, announces, staying, by decide +kernel, ?_, ?_, ?_, ?_, ?_, ?_, ?_, ?_⟩
  · rw [items]
    subst fresh encoded
    decide +kernel
  · rw [merges]
    subst fresh encoded
    decide +kernel
  -- The depot holds each of the three items for this peer, and none for another.
  · rw [found]
    subst fresh encoded
    decide +kernel
  · rw [found]
    subst fresh encoded
    decide +kernel
  · rw [found]
    subst fresh encoded
    decide +kernel
  · rw [found]
    subst fresh encoded
    decide +kernel
  · rw [receiving]
    subst fresh encoded
    decide +kernel
  · rw [errors]
    subst fresh encoded
    decide +kernel

end Round

end SentinelRounds
