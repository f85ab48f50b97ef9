import SentinelRounds.Depot.Memory
import SentinelRounds.Proofs.Round.Operations
import SentinelRounds.Proofs.Round.Sides

/-! A round that has been stopped stays stopped, whatever is done to it afterwards. -/

namespace SentinelRounds

namespace Round

variable {δ ι : Type}

/-- A closing round that has no message left in either direction. -/
structure Halted (round : Round ι) : Prop where
  close : round.context.close = true
  receiving : round.context.receiving.active = false
  sending : round.context.sending.active = false

/-- A round that has been stopped just now, whatever it was before. -/
inductive Stopped (role : Role) : Round ι → Prop
  | halt (before : Round ι) : Stopped role (before.onContext Context.halt)
  | fault (before : Round ι) (fault : RoundFault) : Stopped role (before.fault role fault)
  | deny (before : Round ι) (reason : String) : Stopped role (before.deny role reason)

/-- Every way to stop a round halts it. -/
theorem Stopped.halted {role : Role} {round : Round ι} (stopped : Stopped role round) :
    round.Halted := by
  -- A fault and a denial write a notice, which is no part of the context.
  cases stopped with
  | halt before => exact ⟨rfl, rfl, rfl⟩
  | fault before fault => cases role <;> exact ⟨rfl, rfl, rfl⟩
  | deny before reason => cases role <;> exact ⟨rfl, rfl, rfl⟩

section Sending

variable (role : Role) (round : Round ι)

/-- Writing a frame does not move the outgoing message on. -/
theorem sending_writeFrame (phase : Phase) (content : Bytes) (kind : Markup) :
    (round.writeFrame phase content kind).2.context.sending = round.context.sending := by
  -- Only the output can change.
  unfold writeFrame Context.writeFrame
  cases (round.context.settings.writer phase).write round.context.output content kind <;> rfl

/-- A chunk makes no message due that is not. -/
theorem idle_sendChunk (chunk : Bytes) (kind : Markup)
    (idle : round.context.sending.active = false) :
    (round.sendChunk role chunk kind).2.context.sending.active = false := by
  -- Neither noting the chunk nor writing its frame starts a message.
  have noted : (round.noteChunk role).context.sending = round.context.sending := by
    cases role <;> rfl
  have written := sending_writeFrame (round.noteChunk role) .message chunk kind
  simp only [sendChunk]
  generalize (round.noteChunk role).writeFrame .message chunk kind = made at written ⊢
  obtain ⟨answer, after⟩ := made
  have still : after.context.sending.active = false := by
    rw [← noted, ← written] at idle
    exact idle
  -- The frame may be the last one of an item: then the index moves on, or the phase ends.
  cases answer with
  | error fault => exact still
  | ok kind =>
    by_cases last : kind = .final
    · simp only [if_pos last, onContext, finishSending]
      split
      · exact still
      · rfl
    · simp only [if_neg last]
      exact still

/-- Nor does an attempt to send a chunk, whether or not there is one. -/
theorem idle_sendMessage [Transferable ι] (idle : round.context.sending.active = false) :
    (round.sendMessage role).2.context.sending.active = false := by
  -- The cases are the branches of the operation.
  simp only [sendMessage]
  split
  · exact idle
  split
  · exact idle
  split
  · apply idle_sendChunk
    exact idle
  split
  · exact idle
  · apply idle_sendChunk
    exact idle

end Sending

namespace Halted

variable {role : Role} {round : Round ι}

/-- A header does not open a halted round again, even if it can be answered. -/
theorem receiveHeader [Depot δ ι] (halted : round.Halted) (depot : δ) (frame : Bytes) :
    (round.receiveHeader depot role frame).1.Halted := by
  -- Either the header stops the round once more, or it is taken over by a closing round.
  rcases round.receiveHeader_cases depot role frame with
    ⟨base, fault, store, _, received⟩ | ⟨base, reason, store, received⟩ |
      ⟨header, base, store, fault, _, adopts, _, _, received⟩ |
      ⟨header, base, store, items, _, adopts, _, received⟩
  · rw [received]
    exact (Stopped.fault base fault).halted
  · rw [received]
    exact (Stopped.deny base reason).halted
  · rw [received]
    refine ⟨?_, ?_, ?_⟩
    · rw [adopts.close, halted.close, Bool.true_or]
    · rw [adopts.receiving]
      exact halted.receiving
    · rw [adopts.sending]
      exact halted.sending
  · have close : base.context.close = true := by
      rw [adopts.close, halted.close, Bool.true_or]
    have idle : base.context.sending.active = false := by
      rw [adopts.sending, halted.sending]
    rw [received, expect_eq]
    -- A closing round waits for no message, however many items are announced.
    refine ⟨?_, ?_, ?_⟩
    · cases role <;> exact close
    · cases role <;> simp [Round.onContext, Round.setIncoming, close]
    · cases role <;> exact idle

/-- The code around a round can open it again in one way only. -/
theorem act [Reversible ι] (halted : round.Halted) {action : Action ι}
    (unopened : action ≠ .close false) : (action.apply role round).Halted := by
  -- All other actions leave the three flags alone, or set them.
  cases action with
  | close value =>
    cases value with
    | false => exact absurd rfl unopened
    | true => exact ⟨rfl, halted.receiving, halted.sending⟩
  | synchronicIfItems =>
    simp only [Action.apply]
    split
    · exact ⟨halted.close, halted.receiving, halted.sending⟩
    · exact halted
  | halt => exact ⟨rfl, rfl, rfl⟩
  | _ => cases role <;> exact ⟨halted.close, halted.receiving, halted.sending⟩

/-- Announcing nothing leaves a halted round halted. -/
theorem announce_nothing (halted : round.Halted) (role : Role) :
    (round.announce role []).Halted := by
  -- A message phase begins with the items that are announced.
  cases role <;> exact ⟨halted.close, halted.receiving, rfl⟩

variable [Transferable ι]

/-- A chunk does not open it again. -/
theorem receiveMessage [Depot δ ι] (halted : round.Halted) (depot : δ) (frame : Bytes)
    (kind : Markup) : (round.receiveMessage depot role frame kind).1.Halted := by
  -- A chunk is answered with a fault, or it counts.
  rcases round.receiveMessage_cases depot role frame kind with
    ⟨base, fault, store, _, received⟩ | ⟨peer, item, grown, _, _, _, _, received⟩
  · rw [received]
    exact (Stopped.fault base fault).halted
  · -- The chunk counts, but no count makes a phase active.
    have counted : ((round.hold role grown).count role).Halted := by
      cases role <;> exact ⟨halted.close, halted.receiving, halted.sending⟩
    rcases received with ⟨_, received⟩ | ⟨_, store, _, received⟩
    · rw [received]
      exact counted
    · rw [received]
      refine ⟨?_, ?_, ?_⟩
      · simp only [Round.onContext, finishItem_eq]
        exact counted.close
      · simp only [Round.onContext, finishItem_eq, passed]
        split
        · rfl
        · exact counted.receiving
      · simp only [Round.onContext, finishItem_eq]
        exact counted.sending

/-- A halted round announces nothing, whatever is prepared. -/
theorem announcement_eq (halted : round.Halted) (role : Role) : round.announcement role = .ok [] :=
  if_pos halted.close

/-- Sending a header leaves a halted round halted. -/
theorem sendHeader (halted : round.Halted) : (round.sendHeader role).2.Halted := by
  -- A halted round announces no items.
  have announced := halted.announce_nothing role
  rw [sendHeader_eq (halted.announcement_eq role)]
  split
  · exact ⟨announced.close, announced.receiving, announced.sending⟩
  · exact announced

/-- The header that a halted round sends announces nothing. -/
theorem sendHeader_ok (halted : round.Halted) {kind : Markup} {after : Round ι}
    (sent : round.sendHeader role = (.ok kind, after)) :
    let header := headerFor round.context (round.outgoingHeader role) []
    let frame := headerFrame round.context.settings header
    frame.length ≤ round.context.settings.headerCapacity ∧
      after = (round.announce role []).onContext fun context =>
        { context with output := context.output ++ frame } := by
  -- A halted round announces no items.
  rw [sendHeader_eq (halted.announcement_eq role)] at sent
  split at sent
  · rename_i fits
    cases sent
    exact ⟨fits, rfl⟩
  · cases sent

/-- Sending a chunk does too, if there is still one to be had. -/
theorem sendMessage (halted : round.Halted) : (round.sendMessage role).2.Halted := by
  -- What only receiving uses is left alone, and so is the closing.
  have kept := (outgoing_sendMessage role).context_eq round
  refine ⟨?_, ?_, idle_sendMessage role round halted.sending⟩
  · exact (congrArg Context.close kept).trans halted.close
  · exact (congrArg (fun context => context.receiving.active) kept).trans halted.receiving

/-- No operation opens a halted round again, unless its very purpose is to do so. -/
theorem perform [Reversible ι] [Depot δ ι] (halted : round.Halted) (depot : δ)
    {operation : Operation ι} (unopened : operation ≠ .act (.close false)) :
    (round.perform role depot operation).2.1.Halted := by
  -- The cases are the operations.
  cases operation with
  | read phase bytes =>
    -- Reading searches the intake and changes nothing else.
    simp only [Round.perform, Context.read]
    split <;> exact ⟨halted.close, halted.receiving, halted.sending⟩
  | dispatch transit phase inbound =>
    cases transit with
    | receive =>
      cases inbound with
      | none => cases phase <;> exact halted
      | some inbound =>
        cases phase with
        | header => exact halted.receiveHeader depot inbound.frame
        | message => exact halted.receiveMessage depot inbound.frame inbound.kind
    | send =>
      cases phase with
      | header => cases inbound <;> exact halted.sendHeader
      | message => cases inbound <;> exact halted.sendMessage
  | act action => exact halted.act fun same => unopened (congrArg Operation.act same)
  | reset => cases role <;> exact ⟨halted.close, rfl, rfl⟩
  | take phase => exact ⟨halted.close, halted.receiving, halted.sending⟩
  | flush => exact ⟨halted.close, halted.receiving, halted.sending⟩
  | raise signal => exact ⟨halted.close, halted.receiving, halted.sending⟩
  | release => exact ⟨halted.close, halted.receiving, halted.sending⟩

end Halted

variable [Transferable ι] [Reversible ι] [Depot δ ι]

/--
A round that has been stopped stays stopped: whatever is received, sent, prepared, or reset, it
closes, no message phase begins, and every header that it still sends says so and announces nothing.
-/
theorem Stopped.stays {role : Role} {start : Round ι} (stopped : Stopped role start) (depot : δ)
    {operations : List (Operation ι)}
    (unopened : ∀ operation ∈ operations, operation ≠ .act (.close false)) :
    let after := (History.performAll role { round := start, depot } operations).round
    after.context.close = true ∧ after.context.receiving.active = false ∧
      after.context.sending.active = false ∧
      ∀ kind sent, after.sendHeader role = (.ok kind, sent) →
        let header := sent.outgoingHeader role
        sent.context.output = after.context.output ++ headerFrame after.context.settings header ∧
          header.close = true ∧ header.itemsCount = 0 ∧ header.chunksCount = 0 ∧
          header.items = [] := by
  -- Every operation keeps the round halted, so all of them together do.
  intro after
  have halted : after.Halted :=
    History.performAll_keeps (fun _ depot _ unopened halted => halted.perform depot unopened)
      unopened stopped.halted
  refine ⟨halted.close, halted.receiving, halted.sending, ?_⟩
  intro kind sent made header
  obtain ⟨_, rfl⟩ := halted.sendHeader_ok made
  -- The header that is left in the round is the one that was framed.
  have close := halted.close
  cases role <;> exact ⟨rfl, close, rfl, rfl, rfl⟩

/-- A stopped server that gets another request, and an item to send, still announces nothing. -/
theorem Stopped.stays_prepared :
    let header : Header :=
      { identity := { id := "c" }, items := [⟨"a", 2, 2⟩], itemsCount := 1, chunksCount := 2 }
    let request : Inbound := ⟨Encoding.binary.encode Header.schema header, .final⟩
    let fresh : Round Parcel := .ofContext (.initial { id := "s" } {})
    let start := fresh.fault .server (.unexpectedChunk 0)
    let operations : List (Operation Parcel) :=
      [.dispatch .send .header none, .reset, .dispatch .receive .header (some request),
        .act (.items [⟨"b", [3]⟩])]
    let after : Round Parcel :=
      (History.performAll .server { round := start, depot := ({} : MemoryDepot) } operations).round
    Stopped .server start ∧ (∀ operation ∈ operations, operation ≠ .act (.close false)) ∧
      after.response.items = [⟨"b", [3]⟩] ∧ after.context.close = true ∧
      after.context.receiving.active = false ∧ after.context.sending.active = false ∧
      ∃ sent, after.sendHeader .server = (.ok .final, sent) ∧
        (sent.outgoingHeader .server).close = true ∧ (sent.outgoingHeader .server).items = [] := by
  -- The operations are none that would open the round.
  intro header request fresh start operations after
  have stopped : Stopped .server start := .fault fresh (.unexpectedChunk 0)
  have unopened : ∀ operation ∈ operations, operation ≠ .act (.close false) := by
    simp [operations]
  obtain ⟨close, receiving, sending, announces⟩ := stopped.stays ({} : MemoryDepot) unopened
  have sent := sent_of_succeeded (show (after.sendHeader .server).1.toOption = some .final by
    decide +kernel)
  obtain ⟨_, closes, _, _, nothing⟩ := announces .final _ sent
  exact ⟨stopped, unopened, by decide +kernel, close, receiving, sending, _, sent, closes, nothing⟩

end Round

end SentinelRounds
