import SentinelRounds.Proofs.Net.Moves
import SentinelRounds.Proofs.Round.Outcomes
import SentinelRounds.Proofs.Round.Sides

/-! What each half of a round keeps to itself: one does not send, and the other does not receive. -/

namespace SentinelRounds

variable {δ ι : Type}

/-- What has not changed on the incoming side has been spared. -/
theorem Round.Spared.of_incomingSide {role : Role} {before after : Round ι}
    (same : after.incomingSide role = before.incomingSide role) : before.Spared role after := by
  -- The incoming side has all of it.
  have peer := congrArg (fun round : Round ι => round.context.peer) same
  have errors := congrArg (fun round : Round ι => round.context.errors) same
  have receiving := congrArg (fun round : Round ι => round.context.receiving) same
  have incoming := congrArg (fun round : Round ι => round.incoming role) same
  have header := congrArg (fun round : Round ι => round.incomingHeader role) same
  cases role <;> exact ⟨peer, errors, incoming, header, .inl receiving⟩

/-- Making a frame spares what has been received. -/
theorem Round.spared_compose [Transferable ι] (role : Role) (phase : Phase) (round : Round ι) :
    round.Spared role (round.compose role phase).2 := by
  -- All that is made belongs to the outgoing side.
  cases phase with
  | header => exact .of_incomingSide ((outgoing_sendHeader role).apart round)
  | message => exact .of_incomingSide ((outgoing_sendMessage role).apart round)

namespace Call

/-- Whether a call is in a phase of a direction, or has ended. -/
def Of (transit : Transit) (phase : Phase) : Call → Prop
  | .choose _ => False
  | .enter other entered | .conclude other entered | .signal other entered =>
    other = transit ∧ entered = phase
  | .next => transit = .receive ∧ phase = .message
  | .search entered _ | .await entered _ | .absorb entered _ =>
    transit = .receive ∧ entered = phase
  | .compose entered | .write entered _ => transit = .send ∧ entered = phase
  | .halt _ | .close _ | .release _ | .succeeded | .failed _ => True

variable [Transferable ι] [Reversible ι] [Depot δ ι]
variable {hooks : Hooks ι} {role : Role} {call onward : Call} {round after : Round ι}
  {depot store : δ} {deed : Option Deed} {transit : Transit} {phase : Phase}

/-- A call stays in its phase. -/
theorem Moves.of (moves : Moves hooks role call round depot deed onward after store)
    (within : call.Of transit phase) : onward.Of transit phase := by
  -- Whatever a step does, the next call is one of the same phase.
  cases moves with
  | choose => cases within
  | enter other entered =>
    obtain ⟨rfl, rfl⟩ := within
    cases other <;> cases entered <;> exact ⟨rfl, rfl⟩
  | write entered =>
    obtain ⟨rfl, rfl⟩ := within
    cases entered <;> exact ⟨rfl, rfl⟩
  | more | complete | finish =>
    obtain ⟨rfl, rfl⟩ := within
    exact ⟨rfl, rfl⟩
  | find | starve | arrive | make | conclude => exact within
  | greet => exact ⟨within.1.symm, within.2⟩
  | fold => exact ⟨within.1, within.2.symm⟩
  | _ => trivial

/-- What a call does is of its direction and phase. -/
theorem Moves.deed_of (moves : Moves hooks role call round depot deed onward after store)
    (within : call.Of transit phase) : deed = none ∨ deed = some (.hooked transit phase) ∨
      (transit = .receive ∧ deed = some (.took phase)) ∨
      (transit = .send ∧ ∃ bytes, deed = some (.wrote phase bytes)) := by
  -- Only four kinds of steps are worth telling.
  cases moves with
  | greet | lose | fold =>
    obtain ⟨rfl, rfl⟩ := within
    exact .inr (.inr (.inl ⟨rfl, rfl⟩))
  | write =>
    obtain ⟨rfl, rfl⟩ := within
    exact .inr (.inr (.inr ⟨rfl, _, rfl⟩))
  | conclude =>
    obtain ⟨rfl, rfl⟩ := within
    exact .inr (.inl rfl)
  | _ => exact .inl rfl

/-- A call that sends takes no frame. -/
theorem Moves.untaken (moves : Moves hooks role call round depot deed onward after store)
    (within : call.Of .send phase) (other : Phase) : deed ≠ some (.took other) := by
  -- Frames are taken only in the other direction.
  rcases moves.deed_of within with rfl | rfl | ⟨receives, _⟩ | ⟨_, _, rfl⟩
  · exact fun same => by cases same
  · exact fun same => by cases same
  · cases receives
  · exact fun same => by cases same

/-- A call that sends spares what has been received, and leaves the depot alone. -/
theorem Moves.spared (moves : Moves hooks role call round depot deed onward after store)
    (within : call.Of .send phase) : round.Spared role after ∧ store = depot := by
  -- What is made and written belongs to the other side of the round.
  cases moves with
  | make _ made _ =>
    -- The frame is made, and then its bytes are taken out of the round.
    have spared := round.spared_compose role phase
    obtain ⟨_, rfl⟩ := within
    rw [made] at spared
    exact ⟨spared.trans (Round.spared_onContext role _ _ rfl rfl (.inl rfl)), rfl⟩
  | spoil _ made | perish _ made =>
    have spared := round.spared_compose role phase
    obtain ⟨_, rfl⟩ := within
    rw [made] at spared
    exact ⟨spared, rfl⟩
  | conclude => exact ⟨round.spared_hooked .., rfl⟩
  | signal | release => exact ⟨round.spared_onContext role _ rfl rfl (.inl rfl), rfl⟩
  | halt => exact ⟨round.spared_onContext role _ rfl rfl (.inr rfl), rfl⟩
  | enter | finish | write | block | close => exact ⟨.refl _, rfl⟩
  | more | complete | find | starve | reject | arrive | starveOut | greet | lose | fold =>
    cases within.1
  | choose => cases within

/-- A call that receives makes no message due that is to be sent. -/
theorem Moves.idle (moves : Moves hooks role call round depot deed onward after store)
    (within : call.Of .receive phase) (idle : round.context.sending.active = false) :
    after.context.sending.active = false := by
  -- Neither a frame that is received nor the hooks after it ask for a message.
  cases moves with
  | greet => exact Action.idle_applyAll _ _ (Round.idle_receiveHeader _ _ _ idle)
  | lose => exact Round.idle_receiveHeader _ _ _ idle
  | fold => exact Round.idle_receiveMessage _ _ _ _ idle
  | conclude => exact Action.idle_applyAll _ _ idle
  | halt => rfl
  | make | spoil | perish => cases within.1
  | choose => cases within
  | _ => exact idle

/-- A call that receives sends no frame. -/
theorem Moves.unwritten (moves : Moves hooks role call round depot deed onward after store)
    (within : call.Of .receive phase) (other : Phase) (bytes : Bytes) :
    deed ≠ some (.wrote other bytes) := by
  -- Frames are written only in the other direction.
  rcases moves.deed_of within with rfl | rfl | ⟨_, rfl⟩ | ⟨sends, _⟩
  · exact fun same => by cases same
  · exact fun same => by cases same
  · exact fun same => by cases same
  · cases sends

end Call

/-- Whether a task belongs to the half of a direction; only a response waits for signals. -/
def Task.Of (transit : Transit) : Task → Prop
  | .find other | .ifDue other => other = transit
  | .await _ => transit = .send
  | .call under => under = .choose transit ∨ ∃ phase, under.Of transit phase
  | .reset | .begin => False

namespace Plan

/-- Whether all tasks belong to the half of a direction. -/
def Of (transit : Transit) (plan : Plan) : Prop := ∀ task ∈ plan, task.Of transit

variable {transit : Transit} {plan onward : Plan}

/-- The half that receives is its own. -/
theorem request_of : Plan.Of .receive .request := by
  simp [Of, request, Task.Of]

/-- The half that sends is its own, whether it waits or not. -/
theorem response_of (pipelined : Bool) : Plan.Of .send (.response pipelined) := by
  cases pipelined <;> simp [Of, response, Task.Of]

/-- What is left of a half belongs to it. -/
theorem Of.tail {task : Task} {rest : Plan} (within : Plan.Of transit (task :: rest)) :
    rest.Of transit :=
  fun other member => within other (List.mem_cons_of_mem _ member)

/-- A task of a half before others of that half. -/
theorem Of.cons {task : Task} {rest : Plan} (first : task.Of transit) (within : rest.Of transit) :
    Plan.Of transit (task :: rest) :=
  List.forall_mem_cons.mpr ⟨first, within⟩

variable [Transferable ι] [Reversible ι] [Depot δ ι]
variable {hooks : Hooks ι} {role : Role} {round after : Round ι} {depot store : δ}
  {deed : Option Deed}

/-- A half stays in its direction. -/
theorem Moves.of (moves : Moves hooks role plan round depot deed onward after store)
    (within : plan.Of transit) : onward.Of transit := by
  -- The tasks behind the first one are of the same direction.
  cases moves with
  | reset | begin | await | proceed => exact within.tail
  | skip => exact fun task member => within.tail task (List.mem_of_mem_drop member)
  | find other =>
    exact .cons (.inl (congrArg Call.choose (within (.find other) List.mem_cons_self))) within.tail
  | call _ moves =>
    refine .cons (.inr ?_) within.tail
    rcases within _ List.mem_cons_self with rfl | ⟨phase, inside⟩
    · -- Whatever phase is chosen, it is one of this direction.
      cases moves
      exact ⟨_, rfl, rfl⟩
    · exact ⟨phase, moves.of inside⟩
  | succeed => exact within.tail

/-- A half that sends spares what has been received, leaves the depot alone, and takes no frame. -/
theorem Moves.sends (moves : Moves hooks role plan round depot deed onward after store)
    (sends : plan.Of .send) :
    round.Spared role after ∧ store = depot ∧ ∀ phase, deed ≠ some (.took phase) := by
  -- A step that is no step of a call changes nothing in the round.
  have quiet : round.Spared role round ∧ depot = depot ∧
      ∀ phase, (none : Option Deed) ≠ some (.took phase) := ⟨.refl _, rfl, fun _ same => by cases same⟩
  cases moves with
  | reset | begin => exact absurd (sends _ List.mem_cons_self) id
  | await | proceed | skip | find => exact quiet
  | call _ moves =>
    rcases sends _ List.mem_cons_self with rfl | ⟨phase, within⟩
    · cases moves
      exact quiet
    · obtain ⟨spared, kept⟩ := moves.spared within
      exact ⟨spared, kept, moves.untaken within⟩
  | succeed _ moves =>
    rcases sends _ List.mem_cons_self with rfl | ⟨phase, within⟩
    · cases moves
    · obtain ⟨spared, kept⟩ := moves.spared within
      exact ⟨spared, kept, moves.untaken within⟩

/-- A half that receives makes no message due that is to be sent, and sends no frame. -/
theorem Moves.receives (moves : Moves hooks role plan round depot deed onward after store)
    (receives : plan.Of .receive) :
    (round.context.sending.active = false → after.context.sending.active = false) ∧
      ∀ phase bytes, deed ≠ some (.wrote phase bytes) := by
  -- A step that is no step of a call changes nothing in the round.
  have quiet : (round.context.sending.active = false → round.context.sending.active = false) ∧
      ∀ phase bytes, (none : Option Deed) ≠ some (.wrote phase bytes) :=
    ⟨id, fun _ _ same => by cases same⟩
  cases moves with
  | reset | begin => exact absurd (receives _ List.mem_cons_self) id
  | await | proceed | skip | find => exact quiet
  | call _ moves =>
    rcases receives _ List.mem_cons_self with rfl | ⟨phase, within⟩
    · cases moves
      exact quiet
    · exact ⟨moves.idle within, moves.unwritten within⟩
  | succeed _ moves =>
    rcases receives _ List.mem_cons_self with rfl | ⟨phase, within⟩
    · cases moves
    · exact ⟨moves.idle within, moves.unwritten within⟩

/-- A half that sends and does not return has taken no frame either. -/
theorem Falls.sends (falls : Falls hooks role plan round depot deed after store)
    (sends : plan.Of .send) (phase : Phase) : deed ≠ some (.took phase) := by
  -- The call that does not return is one of the half.
  obtain ⟨_, moves⟩ := falls
  rcases sends _ List.mem_cons_self with rfl | ⟨other, within⟩
  · cases moves
  · exact moves.untaken within phase

/-- A half that receives and does not return has sent no frame either. -/
theorem Falls.receives (falls : Falls hooks role plan round depot deed after store)
    (receives : plan.Of .receive) (phase : Phase) (bytes : Bytes) :
    deed ≠ some (.wrote phase bytes) := by
  -- The call that does not return is one that receives.
  obtain ⟨_, moves⟩ := falls
  rcases receives _ List.mem_cons_self with rfl | ⟨other, within⟩
  · cases moves
  · exact moves.unwritten within phase bytes

end Plan

end SentinelRounds
