import SentinelRounds.Proofs.Round.Outcomes

/-! The two directions of a round work on two sides of it, so that they can take turns in any order. -/

namespace SentinelRounds

namespace Round

variable {δ ι : Type}

/-- A round as its incoming direction sees it: without what only sending uses. -/
def incomingSide (role : Role) (round : Round ι) : Round ι :=
  ((round.setOutgoing role {}).setOutgoingHeader role {}).onContext fun context =>
    { context with itemIndex := 0, sending := {}, output := [] }

/-- A round as its outgoing direction sees it: without what only receiving uses. -/
def outgoingSide (role : Role) (round : Round ι) : Round ι :=
  ((round.setIncoming role {}).setIncomingHeader role {}).onContext fun context =>
    { context with
      itemIndex := 0
      peer := none
      receiving := {}
      intake := .ofSettings {}
      signals := .clear }

/-- The two sides of a round leave nothing out but the item that either direction touched last. -/
theorem eq_of_sides {role : Role} {round other : Round ι}
    (incoming : round.incomingSide role = other.incomingSide role)
    (outgoing : round.outgoingSide role = other.outgoingSide role) :
    (round.onContext fun context => { context with itemIndex := other.context.itemIndex }) =
      other := by
  -- Every other field is on one of the sides, and some are on both.
  obtain ⟨⟨_, _, _, _, _, _, _, _, _, _, _, _, _⟩, _, _, _, _⟩ := round
  obtain ⟨⟨_, _, _, _, _, _, _, _, _, _, _, _, _⟩, _, _, _, _⟩ := other
  cases role <;>
    · simp only [incomingSide, outgoingSide, setIncoming, setOutgoing, setIncomingHeader,
        setOutgoingHeader, onContext, Round.mk.injEq, Context.mk.injEq] at incoming outgoing ⊢
      simp only [incoming, outgoing, and_self]

section Receiving

variable {role : Role} {round other : Round ι}

/-- What a fault makes of the incoming side depends on that side only. -/
theorem fault_incomingSide (fault : RoundFault)
    (same : other.incomingSide role = round.incomingSide role) :
    (other.fault role fault).incomingSide role = (round.fault role fault).incomingSide role := by
  -- The fault changes the same on the side as in the whole round.
  have alone : ∀ round : Round ι, (round.fault role fault).incomingSide role =
      ((round.incomingSide role).fault role fault).incomingSide role := fun _ => by
    cases role <;> rfl
  rw [alone, same, ← alone]

/-- So does what the completion of an item makes of it. -/
theorem finishItem_incomingSide (same : other.incomingSide role = round.incomingSide role) :
    (other.onContext finishItem).incomingSide role =
      (round.onContext finishItem).incomingSide role := by
  -- The counters of what is received are on this side, and nothing else is read.
  have alone : ∀ round : Round ι, (round.onContext finishItem).incomingSide role =
      ((round.incomingSide role).onContext finishItem).incomingSide role := fun _ => by
    simp only [onContext, finishItem_eq]
    cases role <;> rfl
  rw [alone, same, ← alone]

variable [Transferable ι] [Depot δ ι]

/-- What a chunk makes of an item, the incoming side and the depot depends on those only. -/
theorem absorbChunk_incomingSide (round : Round ι) (depot : δ) (role : Role) (peer : Identity)
    (item : ι) (frame : Bytes) (kind : Markup) :
    let after := round.absorbChunk depot role peer item frame kind
    let alone := (round.incomingSide role).absorbChunk depot role peer item frame kind
    alone.1.incomingSide role = after.1.incomingSide role ∧ alone.2 = after.2 := by
  -- The chunk is absorbed by the same item, so both sides take the same way.
  simp only [absorbChunk_eq_hold]
  rcases Transferable.absorb item frame with ⟨_ | _, grown⟩
  · exact ⟨fault_incomingSide _ (by cases role <;> rfl), rfl⟩
  · -- Whether the item is complete can be seen on this side.
    have grows : (((round.incomingSide role).hold role grown).count role).incomingSide role =
        ((round.hold role grown).count role).incomingSide role := by
      cases role <;> rfl
    have same : (((round.incomingSide role).hold role grown).count role).Completes role kind ↔
        ((round.hold role grown).count role).Completes role kind := by
      cases role <;> exact Iff.rfl
    simp only [same]
    split
    · rcases Depot.merge depot peer grown with ⟨_ | _, store⟩
      · exact ⟨fault_incomingSide _ grows, rfl⟩
      · exact ⟨finishItem_incomingSide grows, rfl⟩
    · exact ⟨grows, rfl⟩

/-- What a received chunk makes of the incoming side and the depot depends on those only. -/
theorem receiveMessage_incomingSide (depot : δ) (frame : Bytes) (kind : Markup)
    (same : other.incomingSide role = round.incomingSide role) :
    (other.receiveMessage depot role frame kind).1.incomingSide role =
        (round.receiveMessage depot role frame kind).1.incomingSide role ∧
      (other.receiveMessage depot role frame kind).2 =
        (round.receiveMessage depot role frame kind).2 := by
  -- It is enough to see that a chunk does the same to the side alone.
  have alone : ∀ round : Round ι,
      ((round.incomingSide role).receiveMessage depot role frame kind).1.incomingSide role =
          (round.receiveMessage depot role frame kind).1.incomingSide role ∧
        ((round.incomingSide role).receiveMessage depot role frame kind).2 =
          (round.receiveMessage depot role frame kind).2 := by
    intro round
    -- Everything that the tests look at is on this side.
    have receiving : (round.incomingSide role).context.receiving = round.context.receiving := by
      cases role <;> rfl
    have peer : (round.incomingSide role).context.peer = round.context.peer := by
      cases role <;> rfl
    have items : ((round.incomingSide role).incoming role).items =
        (round.incoming role).items := by
      cases role <;> rfl
    have self : (round.incomingSide role).incomingSide role = round.incomingSide role := by
      cases role <;> rfl
    simp only [receiveMessage, receiving, peer, items]
    -- Each fault is noted on this side as well.
    split
    · exact ⟨fault_incomingSide _ self, rfl⟩
    split
    · exact ⟨fault_incomingSide _ self, rfl⟩
    split
    · exact ⟨fault_incomingSide _ self, rfl⟩
    · exact round.absorbChunk_incomingSide depot role _ _ frame kind
  -- Two rounds with one side are compared with that side.
  obtain ⟨side, store⟩ := alone other
  rw [← side, ← store, same]
  exact alone round

/-- A chunk that causes no fault leaves the outgoing side alone. -/
theorem receiveMessage_outgoingSide {depot : δ} {frame : Bytes} {kind : Markup}
    (unfaulted : (round.receiveMessage depot role frame kind).1.context.errors =
      round.context.errors) :
    (round.receiveMessage depot role frame kind).1.outgoingSide role = round.outgoingSide role := by
  -- The message changes the outgoing side only by a fault, which is excluded.
  rcases round.receiveMessage_cases depot role frame kind with
    ⟨base, fault, store, same, received⟩ | ⟨peer, item, grown, _, _, _, _, received⟩
  · -- A fault would have been counted.
    rw [received, errors_fault, same] at unfaulted
    simp at unfaulted
  · rcases received with ⟨_, received⟩ | ⟨_, store, _, received⟩
    · rw [received]
      cases role <;> rfl
    · simp only [received, onContext, finishItem_eq]
      cases role <;> rfl

end Receiving

/-- A move that depends on the outgoing side of a round alone, and leaves the incoming side alone. -/
structure Outgoing (role : Role) (act : Round ι → Except RoundFault Markup × Round ι) : Prop where
  within : ∀ round : Round ι, (act (round.outgoingSide role)).1 = (act round).1 ∧
    (act (round.outgoingSide role)).2.outgoingSide role = (act round).2.outgoingSide role
  apart : ∀ round, (act round).2.incomingSide role = round.incomingSide role

/-- Rounds with one outgoing side get one answer to such a move, and still have one side after it. -/
theorem Outgoing.congr {role : Role} {act : Round ι → Except RoundFault Markup × Round ι}
    (outgoing : Outgoing role act) {round other : Round ι}
    (same : other.outgoingSide role = round.outgoingSide role) :
    (act other).1 = (act round).1 ∧
      (act other).2.outgoingSide role = (act round).2.outgoingSide role := by
  -- Both are compared with what the move does on the side alone.
  obtain ⟨answer, side⟩ := outgoing.within other
  rw [← answer, ← side, same]
  exact outgoing.within round

/-- All that it changes in the context are the outgoing message, the output and the item index. -/
theorem Outgoing.context_eq {role : Role} {act : Round ι → Except RoundFault Markup × Round ι}
    (outgoing : Outgoing role act) (round : Round ι) :
    let after := (act round).2.context
    after = { round.context with
      itemIndex := after.itemIndex, sending := after.sending, output := after.output } := by
  -- The move leaves the incoming side, which holds every other field.
  intro after
  have apart : { after with itemIndex := 0, sending := {}, output := [] } =
      { round.context with itemIndex := 0, sending := {}, output := [] } := by
    have sides := congrArg (fun round => round.context) (outgoing.apart round)
    cases role <;> exact sides
  exact congrArg (fun context : Context => { context with
    itemIndex := after.itemIndex, sending := after.sending, output := after.output }) apart

section Sending

/-- Writing a frame is a move of the outgoing side. -/
theorem outgoing_writeFrame (role : Role) (phase : Phase) (content : Bytes) (kind : Markup) :
    Outgoing (ι := ι) role fun round => round.writeFrame phase content kind := by
  -- A writer reads the settings and the output, and both are on this side.
  refine ⟨fun round => ?_, fun round => ?_⟩
  · have settings : (round.outgoingSide role).context.settings = round.context.settings := by
      cases role <;> rfl
    have output : (round.outgoingSide role).context.output = round.context.output := by
      cases role <;> rfl
    simp only [writeFrame, Context.writeFrame, settings, output]
    rcases (round.context.settings.writer phase).write round.context.output content kind with
      _ | ⟨_, _⟩ <;> exact ⟨rfl, by cases role <;> rfl⟩
  · simp only [writeFrame, Context.writeFrame]
    rcases (round.context.settings.writer phase).write round.context.output content kind with
      _ | ⟨_, _⟩ <;> cases role <;> rfl

/-- So is sending a header. -/
theorem outgoing_sendHeader [Transferable ι] (role : Role) :
    Outgoing (ι := ι) role fun round => round.sendHeader role := by
  -- What is announced and what the header reports are on this side.
  refine ⟨fun round => ?_, fun round => ?_⟩
  · have announced : (round.outgoingSide role).announcement role = round.announcement role := by
      cases role <;> rfl
    simp only [sendHeader, announced]
    split
    · exact ⟨rfl, by cases role <;> rfl⟩
    · -- The announced header is the same on both, and it is all that is written.
      rename_i items _
      have same : ((round.outgoingSide role).announce role items).outgoingSide role =
          (round.announce role items).outgoingSide role := by
        cases role <;> rfl
      have header : ((round.outgoingSide role).announce role items).outgoingHeader role =
          (round.announce role items).outgoingHeader role := by
        cases role <;> rfl
      have settings : ((round.outgoingSide role).announce role items).context.settings =
          (round.announce role items).context.settings := by
        cases role <;> rfl
      rw [header, settings]
      exact (outgoing_writeFrame ..).congr same
  · simp only [sendHeader]
    split
    · rfl
    · refine ((outgoing_writeFrame ..).apart _).trans ?_
      cases role <;> rfl

/-- Moving past an item that has been sent depends on the outgoing side only. -/
theorem finishSending_outgoingSide {role : Role} {round other : Round ι} (index count : Nat)
    (same : other.outgoingSide role = round.outgoingSide role) :
    (other.onContext fun context => finishSending context index count).outgoingSide role =
      (round.onContext fun context => finishSending context index count).outgoingSide role := by
  -- The message under way is on this side.
  have alone : ∀ round : Round ι,
      (round.onContext fun context => finishSending context index count).outgoingSide role =
        ((round.outgoingSide role).onContext fun context =>
          finishSending context index count).outgoingSide role := fun _ => by
    simp only [onContext, finishSending]
    split <;> cases role <;> rfl
  rw [alone, same, ← alone]

/-- It leaves the incoming side alone. -/
theorem finishSending_incomingSide (role : Role) (round : Round ι) (index count : Nat) :
    (round.onContext fun context => finishSending context index count).incomingSide role =
      round.incomingSide role := by
  -- The incoming side has none of the fields that change.
  simp only [onContext, finishSending]
  split <;> cases role <;> rfl

/-- Writing a chunk of an item is a move of the outgoing side. -/
theorem outgoing_sendChunk (role : Role) (chunk : Bytes) (kind : Markup) :
    Outgoing (ι := ι) role fun round => round.sendChunk role chunk kind := by
  -- Noting the chunk, writing it and moving past its item are moves of this side.
  refine ⟨fun round => ?_, fun round => ?_⟩
  · have noted : ((round.outgoingSide role).noteChunk role).outgoingSide role =
        (round.noteChunk role).outgoingSide role := by
      cases role <;> rfl
    have sending : (round.outgoingSide role).context.sending = round.context.sending := by
      cases role <;> rfl
    obtain ⟨answer, side⟩ := (outgoing_writeFrame role .message chunk kind).congr noted
    simp only [sendChunk, sending]
    -- The two writes give one answer, so both go on in the same way.
    generalize ((round.outgoingSide role).noteChunk role).writeFrame .message chunk kind = made
      at answer side ⊢
    generalize (round.noteChunk role).writeFrame .message chunk kind = expected at answer side ⊢
    obtain ⟨made, other⟩ := made
    obtain ⟨expected, after⟩ := expected
    simp only at answer side
    subst answer
    cases made with
    | error fault => exact ⟨rfl, side⟩
    | ok kind =>
      have count : (other.outgoing role).items = (after.outgoing role).items := by
        have items := congrArg (fun round => (outgoing round role).items) side
        cases role <;> exact items
      simp only [count]
      split
      · exact ⟨rfl, finishSending_outgoingSide _ _ side⟩
      · exact ⟨rfl, side⟩
  · have noted : (round.noteChunk role).incomingSide role = round.incomingSide role := by
      cases role <;> rfl
    have written := ((outgoing_writeFrame role .message chunk kind).apart _).trans noted
    simp only [sendChunk]
    generalize (round.noteChunk role).writeFrame .message chunk kind = made at written ⊢
    obtain ⟨_ | kind, after⟩ := made
    · exact written
    · simp only at written ⊢
      split
      · exact (finishSending_incomingSide ..).trans written
      · exact written

/-- And so is sending whatever chunk comes next. -/
theorem outgoing_sendMessage [Transferable ι] (role : Role) :
    Outgoing (ι := ι) role fun round => round.sendMessage role := by
  -- The item and its next bytes are read off the outgoing side.
  have touched : ∀ (round : Round ι) (index : Nat),
      (round.onContext fun context => { context with itemIndex := index }).context.sending =
        round.context.sending := fun _ _ => rfl
  refine ⟨fun round => ?_, fun round => ?_⟩
  · -- The side gives the same answer, test by test.
    have sending : (round.outgoingSide role).context.sending = round.context.sending := by
      cases role <;> rfl
    have settings : (round.outgoingSide role).context.settings = round.context.settings := by
      cases role <;> rfl
    have outgoing : (round.outgoingSide role).outgoing role = round.outgoing role := by
      cases role <;> rfl
    simp only [sendMessage, touched, sending, settings, outgoing]
    split
    · exact ⟨rfl, by cases role <;> rfl⟩
    split
    · exact ⟨rfl, by cases role <;> rfl⟩
    split
    · exact (outgoing_sendChunk role [] .final).congr (by cases role <;> rfl)
    split
    · exact ⟨rfl, by cases role <;> rfl⟩
    · exact (outgoing_sendChunk role _ _).congr (by cases role <;> rfl)
  · -- On the incoming side nothing changes in any of the cases.
    simp only [sendMessage, touched]
    split
    · rfl
    split
    · cases role <;> rfl
    split
    · exact ((outgoing_sendChunk role [] .final).apart _).trans (by cases role <;> rfl)
    split
    · cases role <;> rfl
    · exact ((outgoing_sendChunk role _ _).apart _).trans (by cases role <;> rfl)

end Sending

end Round

end SentinelRounds
