import SentinelRounds.Round.Action

/-! What the code around a round cannot change about it. -/

namespace SentinelRounds

variable {ι : Type}

namespace Round

/-- Nothing that has been received or counted has changed; at most the message was cut off. -/
structure Spared (role : Role) (before after : Round ι) : Prop where
  peer : after.context.peer = before.context.peer
  errors : after.context.errors = before.context.errors
  incoming : after.incoming role = before.incoming role
  incomingHeader : after.incomingHeader role = before.incomingHeader role
  receiving : after.context.receiving = before.context.receiving ∨
    after.context.receiving = { before.context.receiving with active := false }

namespace Spared

variable {role : Role}

/-- A round is spared by doing nothing. -/
theorem refl (round : Round ι) : Spared role round round := ⟨rfl, rfl, rfl, rfl, .inl rfl⟩

/-- What two changes spare, both together spare. -/
theorem trans {first second third : Round ι} (front : Spared role first second)
    (back : Spared role second third) : Spared role first third := by
  -- Whatever both leave alone stays as it was.
  refine ⟨back.peer.trans front.peer, back.errors.trans front.errors,
    back.incoming.trans front.incoming, back.incomingHeader.trans front.incomingHeader, ?_⟩
  -- A message that has been cut off stays so.
  rcases front.receiving with here | here <;> rcases back.receiving with there | there <;>
    rw [there, here] <;> first | exact .inl rfl | exact .inr rfl

/-- However a message was cut off, as many items are left as before. -/
theorem left {before after : Round ι} (spared : Spared role before after) :
    after.context.receiving.left = before.context.receiving.left := by
  rcases spared.receiving with same | same <;> rw [same]

/-- A message that was over stays so. -/
theorem idle {before after : Round ι} (spared : Spared role before after)
    (idle : before.context.receiving.active = false) :
    after.context.receiving.active = false := by
  -- A message that is spared stays as it is, or is cut off.
  rcases spared.receiving with same | same <;> rw [same]
  exact idle

end Spared

/-- A change of the context that leaves what has been received and counted spares a round. -/
theorem spared_onContext (role : Role) (round : Round ι) (change : Context → Context)
    (peer : (change round.context).peer = round.context.peer)
    (errors : (change round.context).errors = round.context.errors)
    (receiving : (change round.context).receiving = round.context.receiving ∨
      (change round.context).receiving = { round.context.receiving with active := false }) :
    round.Spared role (round.onContext change) := by
  cases role <;> exact ⟨peer, errors, rfl, rfl, receiving⟩

end Round

namespace Action

variable [Reversible ι]

/-- One change spares what has been received. -/
theorem spared_apply (action : Action ι) (role : Role) (round : Round ι) :
    round.Spared role (action.apply role round) := by
  -- Only a halt cuts a message off.
  cases action with
  | halt => exact round.spared_onContext role _ rfl rfl (.inr rfl)
  | synchronicIfItems =>
    simp only [apply]
    split <;> cases role <;> exact ⟨rfl, rfl, rfl, rfl, .inl rfl⟩
  | _ => cases role <;> exact ⟨rfl, rfl, rfl, rfl, .inl rfl⟩

/-- Some changes spare what has been received. -/
theorem spared_applyAll (actions : List (Action ι)) (role : Role) (round : Round ι) :
    round.Spared role (applyAll actions role round) := by
  -- One change comes after the other.
  induction actions generalizing round with
  | nil => exact .refl round
  | cons action actions ih => exact (spared_apply action role round).trans (ih _)

/-- No change sets a signal or clears one. -/
theorem signals_applyAll (actions : List (Action ι)) (role : Role) (round : Round ι) :
    (applyAll actions role round).context.signals = round.context.signals := by
  -- The changes are made one after the other.
  induction actions generalizing round with
  | nil => rfl
  | cons action actions ih =>
    refine (ih (action.apply role round)).trans ?_
    cases action with
    | synchronicIfItems =>
      simp only [apply]
      split <;> rfl
    | _ => cases role <;> rfl

/-- No change makes a message due. -/
theorem idle_applyAll (actions : List (Action ι)) (role : Role) {round : Round ι}
    (idle : round.context.sending.active = false) :
    (applyAll actions role round).context.sending.active = false := by
  -- The changes are made one after the other.
  induction actions generalizing round with
  | nil => exact idle
  | cons action actions ih =>
    refine ih ?_
    cases action with
    | halt => rfl
    | synchronicIfItems =>
      simp only [apply]
      split <;> exact idle
    | _ => cases role <;> exact idle

/-- Without a halt, changes leave alone how far the incoming message has come. -/
theorem applyAll_unhalted {actions : List (Action ι)} (unhalted : .halt ∉ actions) (role : Role)
    (round : Round ι) :
    (applyAll actions role round).context.receiving = round.context.receiving := by
  -- The changes are made one after the other, and none of them is a halt.
  induction actions generalizing round with
  | nil => rfl
  | cons action actions ih =>
    have other : action ≠ .halt := fun same => unhalted (same ▸ List.mem_cons_self)
    have rest : .halt ∉ actions := fun member => unhalted (List.mem_cons_of_mem _ member)
    refine (ih rest (action.apply role round)).trans ?_
    cases action with
    | halt => exact absurd rfl other
    | synchronicIfItems =>
      simp only [apply]
      split <;> rfl
    | _ => cases role <;> rfl

end Action

end SentinelRounds
