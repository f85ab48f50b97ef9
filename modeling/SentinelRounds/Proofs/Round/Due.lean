import SentinelRounds.Proofs.Round.Segments

/-! As long as items are due, the counters of receiving agree with the incoming message. -/

namespace SentinelRounds

namespace Round

variable {δ ι : Type}

/--
A header moves the counters of receiving only if its items are expected: a fault and a denial at
most cut off what has been due, and a lack of memory not even that.
-/
theorem receiving_receiveHeader [Depot δ ι] (round : Round ι) (depot : δ) (role : Role)
    (frame : Bytes) :
    let after := round.receiveHeader depot role frame
    after.1.context.receiving = { round.context.receiving with active := false } ∨
      after.1.context.receiving = round.context.receiving ∨
      ∃ (header : Header) (base : Round ι) (items : List ι), header.check = .ok () ∧
        base.context.peer = some header.identity ∧
        Depot.locateAll after.2 header.identity header.items = .ok items ∧
        after.1 = base.expect role header items := by
  -- A header that cannot be read is a fault, which cuts off what has been due.
  intro after
  cases read : readHeader round.context.settings.encoding frame with
  | error fault =>
    left
    simp only [after, receiveHeader, read]
    cases role <;> rfl
  | ok header =>
    have checked := (readHeader_eq_ok_iff.mp read).2
    -- The peer may have been greeted in the notice, which is no matter here.
    have accepted : ∀ (greeted : Round ι) (store : δ),
        greeted.context.receiving = round.context.receiving →
        greeted.context.peer = some header.identity →
        (greeted.acceptItems store role header).context.receiving =
            { round.context.receiving with active := false } ∨
          (greeted.acceptItems store role header).context.receiving = round.context.receiving ∨
          ∃ (base : Round ι) (items : List ι), base.context.peer = some header.identity ∧
            Depot.locateAll store header.identity header.items = .ok items ∧
            greeted.acceptItems store role header = base.expect role header items := by
      intro greeted store receiving known
      rcases greeted.acceptItems_cases store role header with
        ⟨fault, _, _, taken⟩ | ⟨fault, _, _, taken⟩ | ⟨items, located, taken⟩
      · left
        rw [taken, ← receiving]
        cases role <;> rfl
      · right
        left
        rw [taken, ← receiving]
        rfl
      · exact .inr (.inr ⟨greeted.onContext fun context => { context with denied := false }, items,
          known, located, taken⟩)
    simp only [after, receiveHeader, read]
    split
    · left
      cases role <;> rfl
    split
    · left
      cases role <;> rfl
    · left
      cases role <;> rfl
    · rename_i notice store _
      rcases accepted ((round.adopt role header).appendNotice role notice) store
        (by cases role <;> rfl) (by cases role <;> rfl) with cut | unmoved | ⟨base, items, expected⟩
      · exact .inl cut
      · exact .inr (.inl unmoved)
      · exact .inr (.inr ⟨header, base, items, checked, expected⟩)
    · rename_i store _
      rcases accepted (round.adopt role header) store
        (by cases role <;> rfl) (by cases role <;> rfl) with cut | unmoved | ⟨base, items, expected⟩
      · exact .inl cut
      · exact .inr (.inl unmoved)
      · exact .inr (.inr ⟨header, base, items, checked, expected⟩)

/--
Items are due: those before the receive index have been received and the others have not, the item
at the index still misses a chunk, and the peer has a place to merge them into.
-/
structure Due (role : Role) (round : Round Parcel) (depot : MemoryDepot) : Prop where
  known : ∃ peer, round.context.peer = some peer ∧ depot.targets.contains peer.id = true
  items : round.context.receiving.item + round.context.receiving.left =
    (round.incoming role).items.length
  declared : (round.incoming role).items.length = (round.incoming role).inputChunks.length
  positive : ∀ count ∈ (round.incoming role).inputChunks, 0 < count.toNat
  chunk : ∃ count, (round.incoming role).inputChunks[round.context.receiving.item]? = some count ∧
    round.context.receiving.chunk < count.toNat

/-- How the counters of receiving stand, given whether a header has been heard in this round. -/
structure Tallies (role : Role) (heard : Bool) (round : Round Parcel) (depot : MemoryDepot) :
    Prop where
  unheard : heard = false → round.context.receiving.left = 0
  active : round.context.receiving.active = true → round.context.receiving.left ≠ 0
  due : round.context.receiving.left ≠ 0 → round.Due role depot

section

variable {role : Role} {heard : Bool} {round after : Round Parcel} {depot store : MemoryDepot}

/-- Items stay due while the counters move along the message. -/
theorem Due.moved (due : round.Due role depot)
    (known : ∃ peer, after.context.peer = some peer ∧ store.targets.contains peer.id = true)
    (length : (after.incoming role).items.length = (round.incoming role).items.length)
    (declared : (after.incoming role).inputChunks = (round.incoming role).inputChunks)
    (items : after.context.receiving.item + after.context.receiving.left =
      round.context.receiving.item + round.context.receiving.left)
    (chunk : ∃ count,
      (round.incoming role).inputChunks[after.context.receiving.item]? = some count ∧
        after.context.receiving.chunk < count.toNat) : after.Due role store := by
  -- Each part of what is due is carried over to the new counters.
  refine ⟨known, ?_, ?_, ?_, ?_⟩
  · rw [items, length]
    exact due.items
  · rw [length, declared]
    exact due.declared
  · rw [declared]
    exact due.positive
  · rw [declared]
    exact chunk

namespace Tallies

/-- Where nothing is due, there is nothing to agree with. -/
theorem nothing (left : round.context.receiving.left = 0)
    (idle : round.context.receiving.active = false) : round.Tallies role heard depot :=
  ⟨fun _ => left, fun active => absurd (idle.symm.trans active) Bool.false_ne_true,
    fun due => absurd left due⟩

/-- What leaves alone all that is received keeps the counters, even if it cuts the message off. -/
theorem kept (tallies : round.Tallies role heard depot)
    (peer : after.context.peer = round.context.peer)
    (incoming : after.incoming role = round.incoming role)
    (receiving : after.context.receiving = round.context.receiving ∨
      after.context.receiving = { round.context.receiving with active := false })
    (places : ∀ id, depot.targets.contains id = true → store.targets.contains id = true) :
    after.Tallies role heard store := by
  -- The counters are the same, or all of them are cut off.
  have left : after.context.receiving.left = round.context.receiving.left := by
    rcases receiving with same | cut <;> simp only [*]
  have item : after.context.receiving.item = round.context.receiving.item := by
    rcases receiving with same | cut <;> simp only [*]
  have chunk : after.context.receiving.chunk = round.context.receiving.chunk := by
    rcases receiving with same | cut <;> simp only [*]
  refine ⟨fun unheard => left.trans (tallies.unheard unheard), ?_, ?_⟩
  · rw [left]
    -- What is active was so before the cut.
    intro active
    rcases receiving with same | cut
    · exact tallies.active (same ▸ active)
    · rw [cut] at active
      cases active
  · rw [left]
    -- What is due stands at the same place, of the same items.
    intro some
    have due := tallies.due some
    obtain ⟨who, named, place⟩ := due.known
    apply due.moved ⟨who, peer.trans named, places _ place⟩
    · rw [incoming]
    · rw [incoming]
    · rw [item, left]
    · rw [item, chunk]
      exact due.chunk

/-- The first header of a round leaves the counters in order, whatever becomes of its items. -/
theorem receiveHeader (tallies : round.Tallies role false depot) (frame : Bytes) :
    let after := round.receiveHeader depot role frame
    after.1.Tallies role true after.2 := by
  -- The counters are cut off, or stay, or are those of new items.
  intro after
  rcases round.receiving_receiveHeader depot role frame with
    cut | unmoved | ⟨header, base, items, checked, known, located, expected⟩
  · -- Nothing has been due before the first header.
    have left : after.1.context.receiving.left = 0 :=
      (congrArg Receiving.left cut).trans (tallies.unheard rfl)
    exact nothing left (congrArg Receiving.active cut)
  · have left : after.1.context.receiving.left = 0 :=
      (congrArg Receiving.left unmoved).trans (tallies.unheard rfl)
    refine nothing left ?_
    rw [unmoved, ← Bool.not_eq_true]
    exact fun active => tallies.active active (tallies.unheard rfl)
  · have counted := (Header.check_eq_ok_iff.mp checked).counted
    have length : items.length = header.items.length := Depot.length_locateAll located
    have incoming : after.1.incoming role = (base.incoming role).expect items
        (header.items.map Descriptor.chunks) := by
      simp only [after, expected, expect_eq]
      cases role <;> rfl
    have peer : after.1.context.peer = some header.identity := by
      rw [← known]
      simp only [after, expected, expect_eq]
      cases role <;> rfl
    have receiving : after.1.context.receiving =
        { active := !decide (header.items.length = 0 ∨ base.context.close = true),
          left := header.items.length } := by
      simp only [after, expected, expect_eq, counted]
      cases role <;> rfl
    refine ⟨nofun, ?_, ?_⟩
    · rw [receiving]
      intro active empty
      have idle : header.items.length = 0 ∨ base.context.close = true := .inl empty
      rw [decide_eq_true idle] at active
      cases active
    · rw [receiving]
      intro some
      have announced : header.items ≠ [] := fun empty => some (congrArg List.length empty)
      have place := MemoryDepot.contains_of_locateAll announced located
      have positive := Header.chunks_pos checked
      refine ⟨⟨_, peer, place⟩, ?_, ?_, ?_, ?_⟩
      · rw [receiving, incoming]
        exact (Nat.zero_add _).trans length.symm
      · rw [incoming]
        exact length.trans (List.length_map _).symm
      · rw [incoming]
        exact List.forall_mem_map.mpr positive
      · -- The first item misses all of its chunks.
        rw [receiving, incoming]
        cases shape : header.items with
        | nil => exact absurd shape announced
        | cons item rest =>
          refine ⟨item.chunks, rfl, positive item ?_⟩
          rw [shape]
          exact List.mem_cons_self

/-- A chunk that does not complete its item leaves another one missing. -/
theorem counted (tallies : round.Tallies role heard depot) (due : round.context.receiving.left ≠ 0)
    (grown : Parcel) {kind : Markup}
    (more : ¬ ((round.hold role grown).count role).Completes role kind) :
    ((round.hold role grown).count role).Tallies role heard depot := by
  -- The counters differ in the number of chunks only.
  have here := tallies.due due
  have receiving : ((round.hold role grown).count role).context.receiving =
      { round.context.receiving with chunk := round.context.receiving.chunk + 1 } := by
    cases role <;> rfl
  have declared : (((round.hold role grown).count role).incoming role).inputChunks =
      (round.incoming role).inputChunks := by
    cases role <;> rfl
  obtain ⟨count, found, _⟩ := here.chunk
  -- The item is not complete, so another chunk of it is to come.
  have missing : round.context.receiving.chunk + 1 < count.toNat := by
    have below := Nat.lt_of_not_le (not_or.mp more).2
    simp only [declared, receiving, declaredChunks, found] at below
    exact below
  refine ⟨fun unheard => absurd (tallies.unheard unheard) due, fun _ => ?_, fun _ => ?_⟩
  · rw [receiving]
    exact due
  · apply here.moved
    · cases role <;> exact here.known
    · -- The place is moved by one chunk.
      cases role <;> exact List.length_set
    · exact declared
    · rw [receiving]
    · rw [receiving]
      exact ⟨count, found, missing⟩

/-- Once the item at the receive index is complete, the next one is due, or nothing is. -/
theorem finished (tallies : round.Tallies role heard depot) (due : round.context.receiving.left ≠ 0)
    (known : ∃ peer, round.context.peer = some peer ∧ store.targets.contains peer.id = true)
    (grown : Parcel) :
    (((round.hold role grown).count role).onContext finishItem).Tallies role heard store := by
  -- The counters are those of the next item, or none is left.
  have receiving : (((round.hold role grown).count role).onContext finishItem).context.receiving =
      passed { round.context.receiving with chunk := round.context.receiving.chunk + 1 } := by
    rw [onContext, finishItem_eq]
    cases role <;> rfl
  unfold passed at receiving
  split at receiving
  · apply nothing
    · rw [receiving]
    · rw [receiving]
  · rename_i more
    have here := tallies.due due
    refine ⟨fun unheard => absurd (tallies.unheard unheard) due, fun _ => ?_, fun _ => ?_⟩
    · rw [receiving]
      exact more
    · apply here.moved
      · rw [onContext, finishItem_eq]
        cases role <;> exact known
      · cases role <;> exact List.length_set
      · cases role <;> rfl
      · simp only [receiving] at more ⊢
        omega
      · -- The next item misses all of its chunks.
        have items := here.items
        have declared := here.declared
        have within : round.context.receiving.item + 1 <
            (round.incoming role).inputChunks.length := by
          simp only at more
          omega
        rw [receiving]
        exact ⟨_, List.getElem?_eq_getElem within, here.positive _ (List.getElem_mem within)⟩

/-- A chunk goes to the item at the receive index; the next item follows once that is complete. -/
theorem receiveMessage (tallies : round.Tallies role heard depot) (frame : Bytes) (kind : Markup) :
    let after := round.receiveMessage depot role frame kind
    after.1.Tallies role heard after.2 := by
  -- A chunk is refused, or counts, or completes its item.
  intro after
  by_cases nothing : round.context.receiving.left = 0
  · -- A chunk that nobody waits for is a fault.
    have faulted : after =
        (round.fault role (.unexpectedChunk round.context.receiving.item), depot) :=
      if_pos nothing
    rw [faulted]
    exact tallies.kept (by cases role <;> rfl) (by cases role <;> rfl)
      (.inr (by cases role <;> rfl)) fun _ place => place
  have due := tallies.due nothing
  obtain ⟨peer, known, place⟩ := due.known
  have items := due.items
  obtain ⟨parcel, found⟩ : ∃ parcel,
      (round.incoming role).items[round.context.receiving.item]? = some parcel :=
    ⟨_, List.getElem?_eq_getElem (by omega)⟩
  let grown : Parcel := { parcel with body := parcel.body ++ frame }
  let next := (round.hold role grown).count role
  -- The peer has its place, so the depot does not refuse the item.
  obtain ⟨store, merged, still, _⟩ := MemoryDepot.merge_contained place grown
  have stored : Depot.merge depot peer grown = (.ok (), store) := merged
  have taken : after = if next.Completes role kind then (next.onContext finishItem, store)
      else (next, depot) := by
    simp only [after, Round.receiveMessage, if_neg nothing, known, found, absorbChunk_eq_hold,
      Transferable.absorb]
    rw [stored]
  rw [taken]
  split
  · exact tallies.finished nothing ⟨peer, known, still⟩ grown
  · rename_i more
    exact tallies.counted nothing grown more

end Tallies

end

end Round

end SentinelRounds
