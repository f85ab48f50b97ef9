import SentinelRounds.Proofs.Round.Actions
import SentinelRounds.Proofs.Round.Outcomes

/-! How the items of a message are merged one after the other while their chunks come in. -/

namespace SentinelRounds

variable {δ ι : Type}

/-- Some items have been merged for a peer, one after the other and without a fault. -/
inductive Depot.Merges [Depot δ ι] (peer : Identity) : List ι → δ → δ → Prop
  | nil (depot : δ) : Merges peer [] depot depot
  | concat {items : List ι} {item : ι} {first depot store : δ} (merges : Merges peer items first depot)
      (merged : Depot.merge depot peer item = (.ok (), store)) :
    Merges peer (items ++ [item]) first store

namespace Round

variable [Depot δ ι]

/-- A round is receiving some items without a fault, and has merged those before the one under way. -/
structure Fills (role : Role) (peer : Identity) (count : Nat) (start depot : δ) (round : Round ι) :
    Prop where
  sound : round.context.errors = 0
  active : round.context.receiving.active = true
  known : round.context.peer = some peer
  length : (round.incoming role).items.length = count
  left : round.context.receiving.item + round.context.receiving.left = count
  more : round.context.receiving.left ≠ 0
  merges : Depot.Merges peer
    ((round.incoming role).items.take round.context.receiving.item) start depot

/-- A round has received some items and merged them all. -/
structure Filled (role : Role) (peer : Identity) (count : Nat) (start depot : δ) (round : Round ι) :
    Prop where
  length : (round.incoming role).items.length = count
  left : round.context.receiving.left = 0
  merges : Depot.Merges peer (round.incoming role).items start depot

/-- A header has been taken over that announces items, in a round that is not closing. -/
structure Expects (role : Role) (round : Round ι) : Prop where
  allowed : round.context.denied = false
  sound : round.context.errors = 0
  staying : round.context.close = false
  announced : (round.incomingHeader role).items ≠ []

/-- A header that is taken over makes a round receive the items that it announces. -/
theorem Expects.fills {role : Role} {round : Round ι} {depot : δ} {frame : Bytes}
    (returned : round.fatality depot role frame = none)
    (expects : (round.receiveHeader depot role frame).1.Expects role) :
    let received := round.receiveHeader depot role frame
    let header := received.1.incomingHeader role
    received.1.Fills role header.identity header.items.length received.2 received.2 ∧
      received.1.context.signals = round.context.signals := by
  -- The header has been taken over, so its items have been located.
  intro received header
  have parts : round.receiveHeader depot role frame = (received.1, received.2) := rfl
  obtain ⟨base, items, _, adopts, located, taken⟩ :=
    receiveHeader_staying returned parts expects.staying expects.announced
  have some : header.items.length ≠ 0 := mt List.eq_nil_of_length_eq_zero expects.announced
  have length : items.length = header.items.length := Depot.length_locateAll located
  refine ⟨⟨expects.sound, ?_, ?_, ?_, ?_, ?_, ?_⟩, ?_⟩
  · -- Everything that is stated can be read off the round that expects the items.
    rw [taken]
    rfl
  · rw [taken, ← adopts.peer]
    cases role <;> rfl
  · rw [taken, ← length]
    cases role <;> rfl
  · rw [taken]
    exact Nat.zero_add _
  · rw [taken]
    exact some
  · rw [taken]
    exact .nil _
  · rw [taken, ← adopts.signals]
    cases role <;> rfl

/-- A header that makes a message due announces items, in a round that is not closing. -/
theorem Expects.of_active {role : Role} {round : Round ι} {depot : δ} {frame : Bytes}
    (returned : round.fatality depot role frame = none)
    (sound : round.context.errors = 0)
    (active : (round.receiveHeader depot role frame).1.context.receiving.active = true) :
    (round.receiveHeader depot role frame).1.Expects role := by
  -- The cases are the answers that a header can get.
  rcases round.receiveHeader_cases depot role frame with
    ⟨base, fault, store, _, received⟩ | ⟨base, reason, store, received⟩ |
      ⟨_, _, _, fault, _, _, lost, _⟩ | ⟨header, base, store, items, checked, adopts, _, received⟩
  · -- A fault and a denial leave nothing due.
    rw [received, (halted_fault role base fault).1] at active
    cases active
  · rw [received, (halted_deny role base reason).1] at active
    cases active
  · rw [returned] at lost
    cases lost
  · simp only [received, expect_eq] at active ⊢
    have due : ¬ (header.itemsCount.toNat = 0 ∨ base.context.close = true) := by
      simpa [onContext] using active
    obtain ⟨some, staying⟩ := not_or.mp due
    rw [(Header.check_eq_ok_iff.mp checked).counted] at some
    refine ⟨?_, ?_, ?_, ?_⟩
    · rw [← adopts.denied]
      cases role <;> rfl
    · rw [← adopts.errors.trans sound]
      cases role <;> rfl
    · rw [← eq_false_of_ne_true staying]
      cases role <;> rfl
    · have announced := mt List.length_eq_zero_iff.mpr some
      rw [← adopts.headed] at announced
      cases role <;> exact announced

/-- A round that is spared without being cut off goes on receiving. -/
theorem Fills.uncut {role : Role} {peer : Identity} {count : Nat} {start depot : δ}
    {before after : Round ι} (fills : before.Fills role peer count start depot)
    (spared : before.Spared role after)
    (same : after.context.receiving = before.context.receiving) :
    after.Fills role peer count start depot := by
  -- All that receiving depends on has been spared.
  refine ⟨spared.errors.trans fills.sound, ?_, spared.peer.trans fills.known, ?_, ?_, ?_, ?_⟩
  · rw [same]; exact fills.active
  · rw [spared.incoming]; exact fills.length
  · rw [same]; exact fills.left
  · rw [same]; exact fills.more
  · rw [same, spared.incoming]; exact fills.merges

/-- Hooks and the sending half leave a round receiving, unless they cut the message off. -/
theorem Fills.spared {role : Role} {peer : Identity} {count : Nat} {start depot : δ}
    {before after : Round ι} (fills : before.Fills role peer count start depot)
    (spared : before.Spared role after) :
    after.Fills role peer count start depot ∨ after.context.receiving.active = false := by
  -- The message is as it was, or it is over.
  rcases spared.receiving with same | cut
  · exact .inl (fills.uncut spared same)
  · rw [cut]
    exact .inr rfl

/-- Hooks and the sending half leave alone what has been received in full. -/
theorem Filled.spared {role : Role} {peer : Identity} {count : Nat} {start depot : δ}
    {before after : Round ι} (filled : before.Filled role peer count start depot)
    (spared : before.Spared role after) : after.Filled role peer count start depot := by
  -- The items are spared, whether or not the message is over.
  refine ⟨?_, spared.left.trans filled.left, ?_⟩
  · rw [spared.incoming]; exact filled.length
  · rw [spared.incoming]; exact filled.merges

/-- A chunk that has been absorbed and counted leaves a round receiving. -/
theorem Fills.counted {role : Role} {peer : Identity} {count : Nat} {start depot : δ}
    {round : Round ι} (fills : round.Fills role peer count start depot) (grown : ι) :
    let next := (round.hold role grown).count role
    next.Fills role peer count start depot ∧ next.context.signals = round.context.signals := by
  -- The number of items stays the same.
  intro next
  have length : ((round.incoming role).items.set round.context.receiving.item grown).length =
      count := by
    rw [List.length_set, fills.length]
  -- The items before the one under way stay as they have been merged.
  have merges := fills.merges
  rw [← List.take_set_of_le (a := grown) (Nat.le_refl round.context.receiving.item)] at merges
  cases role <;> exact
    ⟨⟨fills.sound, fills.active, fills.known, length, fills.left, fills.more, merges⟩, rfl⟩

/-- Once the item under way is merged, the next one is up, or all of them have been merged. -/
theorem Fills.finished {role : Role} {peer : Identity} {count : Nat} {start depot store : δ}
    {round : Round ι} {item : ι} (fills : round.Fills role peer count start depot)
    (found : (round.incoming role).items[round.context.receiving.item]? = some item)
    (merged : Depot.merge depot peer item = (.ok (), store)) :
    let next := round.onContext finishItem
    next.context.signals.messageReceived = round.context.signals.messageReceived ∧
      (next.Fills role peer count start store ∨
        (next.context.receiving.active = false ∧ next.Filled role peer count start store)) := by
  -- One more item is merged, in the order of the items.
  intro next
  have left := fills.left
  have more := fills.more
  have length := fills.length
  have merges := fills.merges.concat merged
  have grown : (round.incoming role).items.take (round.context.receiving.item + 1) =
      (round.incoming role).items.take round.context.receiving.item ++ [item] := by
    rw [List.take_add_one, found]
    rfl
  rw [← grown] at merges
  have items : next.incoming role = round.incoming role := by cases role <;> rfl
  have context : next.context = finishItem round.context := rfl
  rw [finishItem_eq] at context
  refine ⟨?_, ?_⟩
  · rw [context]
    simp only
    split <;> rfl
  by_cases last : round.context.receiving.left - 1 = 0
  · -- With its last item the whole message is complete.
    have all : round.context.receiving.item + 1 = count := by omega
    rw [List.take_of_length_le (by omega)] at merges
    have far : next.context.receiving =
        { round.context.receiving with active := false, left := 0, chunk := 0 } := by
      rw [context]
      exact if_pos last
    exact .inr ⟨by rw [far], by rw [items]; exact length, by rw [far], by rw [items]; exact merges⟩
  · -- Otherwise the next item is up.
    have far : next.context.receiving = { round.context.receiving with
        left := round.context.receiving.left - 1
        chunk := 0
        item := round.context.receiving.item + 1 } := by
      rw [context]
      exact if_neg last
    refine .inl ⟨?_, ?_, ?_, ?_, ?_, ?_, ?_⟩
    · rw [context]
      exact fills.sound
    · rw [far]
      exact fills.active
    · rw [context]
      exact fills.known
    · rw [items]
      exact length
    · rw [far]
      simp only
      omega
    · rw [far]
      exact last
    · rw [items, far]
      exact merges

/--
A chunk leaves a round receiving, or it is the last one and everything has been merged, or it is
answered with a fault; unless there is a fault, whoever waits for the hooks still waits.
-/
theorem Fills.receive [Transferable ι] {role : Role} {peer : Identity} {count : Nat}
    {start depot : δ} {round : Round ι} (fills : round.Fills role peer count start depot)
    (frame : Bytes) (kind : Markup) :
    let received := round.receiveMessage depot role frame kind
    (received.1.Fills role peer count start received.2 ∧
        received.1.context.signals.messageReceived = round.context.signals.messageReceived) ∨
      (received.1.context.receiving.active = false ∧
        (received.1.context.errors ≠ 0 ∨ (received.1.Filled role peer count start received.2 ∧
          received.1.context.signals.messageReceived = round.context.signals.messageReceived))) := by
  -- A chunk is answered with a fault, or it is absorbed.
  intro received
  rcases round.receiveMessage_cases depot role frame kind with
    ⟨base, fault, store, same, taken⟩ | ⟨sender, item, grown, _, known, found, _, taken⟩
  · refine .inr ⟨?_, .inl ?_⟩
    · simp only [received, taken]
      exact (halted_fault role base fault).1
    · simp only [received, taken, errors_fault, same, fills.sound]
      decide
  · -- The chunk is counted first; what it completes is merged then.
    obtain ⟨counted, signals⟩ := fills.counted grown
    have told := congrArg Signals.messageReceived signals
    rcases taken with ⟨_, taken⟩ | ⟨_, store, merged, taken⟩
    · simp only [received, taken]
      exact .inl ⟨counted, told⟩
    · cases Option.some.inj (known.symm.trans fills.known)
      have within : round.context.receiving.item < (round.incoming role).items.length :=
        (List.getElem?_eq_some_iff.mp found).1
      have held : (((round.hold role grown).count role).incoming role).items[
          ((round.hold role grown).count role).context.receiving.item]? = some grown := by
        have set := List.getElem?_set_self (a := grown) within
        cases role <;> exact set
      obtain ⟨same, fills | ⟨idle, filled⟩⟩ := counted.finished held merged
      · simp only [received, taken]
        exact .inl ⟨fills, same.trans told⟩
      · simp only [received, taken]
        exact .inr ⟨idle, .inr ⟨filled, same.trans told⟩⟩

end Round

end SentinelRounds
