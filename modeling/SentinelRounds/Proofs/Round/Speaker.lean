import SentinelRounds.Proofs.Round.Actions
import SentinelRounds.Proofs.Round.Operations
import SentinelRounds.Proofs.Round.Sides

/-! Nothing that is done to a round makes it the round of another end. -/

namespace SentinelRounds

namespace Round

variable {δ ι : Type}

/-- A round still speaks for the same end, and has said nothing more. -/
structure SameSpeaker (role : Role) (before after : Round ι) : Prop where
  settings : after.context.settings = before.context.settings
  identity : after.context.identity = before.context.identity
  output : after.context.output = before.context.output
  version : (after.outgoingHeader role).version = (before.outgoingHeader role).version

namespace SameSpeaker

variable {role : Role}

/-- A round speaks for the same end as itself. -/
theorem refl (round : Round ι) : SameSpeaker role round round := ⟨rfl, rfl, rfl, rfl⟩

/-- What two changes leave alone, both together leave alone. -/
theorem trans {first second third : Round ι} (front : SameSpeaker role first second)
    (back : SameSpeaker role second third) : SameSpeaker role first third :=
  ⟨back.settings.trans front.settings, back.identity.trans front.identity,
    back.output.trans front.output, back.version.trans front.version⟩

/-- The code around a round cannot make it speak for another end. -/
theorem apply [Reversible ι] (role : Role) (action : Action ι) (round : Round ι) :
    SameSpeaker role round (action.apply role round) := by
  -- One action has a test, and each of the others sets fields of its own.
  cases action with
  | synchronicIfItems =>
    simp only [Action.apply]
    split <;> exact ⟨rfl, rfl, rfl, rfl⟩
  | _ => cases role <;> exact ⟨rfl, rfl, rfl, rfl⟩

/-- Nor can it in several changes. -/
theorem applyAll [Reversible ι] (role : Role) (actions : List (Action ι)) (round : Round ι) :
    SameSpeaker role round (Action.applyAll actions role round) := by
  -- One change comes after the other.
  induction actions generalizing round with
  | nil => exact refl round
  | cons action actions ih =>
    apply trans (apply role action round)
    exact ih (action.apply role round)

/-- A fault changes the notice and how the round goes on. -/
theorem fault (round : Round ι) (fault : RoundFault) :
    SameSpeaker role round (round.fault role fault) := by
  cases role <;> exact ⟨rfl, rfl, rfl, rfl⟩

/-- A line in the notice is nothing more than that. -/
theorem appendNotice (round : Round ι) (line : String) :
    SameSpeaker role round (round.appendNotice role line) := by
  cases role <;> exact ⟨rfl, rfl, rfl, rfl⟩

/-- A header from another end cannot make a round speak for that end. -/
theorem receiveHeader [Depot δ ι] (role : Role) (depot : δ) (frame : Bytes) (round : Round ι) :
    SameSpeaker role round (round.receiveHeader depot role frame).1 := by
  -- Every step that a header can take is shown to keep the speaker.
  refine receiveHeader_keeps (fun base header same => same.trans ?_)
    (fun base line same => same.trans (appendNotice base line)) (fun base same => same.trans ?_)
    (fun base header items same => same.trans ?_) (fun base reason same => same.trans ?_)
    (fun base fault same => same.trans (SameSpeaker.fault base fault)) (refl round) depot frame
  -- Taking the header over and expecting its items touch what is received only.
  · cases role <;> exact ⟨rfl, rfl, rfl, rfl⟩
  · cases role <;> exact ⟨rfl, rfl, rfl, rfl⟩
  · rw [expect_eq]
    cases role <;> exact ⟨rfl, rfl, rfl, rfl⟩
  · cases role <;> exact ⟨rfl, rfl, rfl, rfl⟩

/-- A chunk cannot either. -/
theorem receiveMessage [Transferable ι] [Depot δ ι] (role : Role) (depot : δ) (frame : Bytes)
    (kind : Markup) (round : Round ι) :
    SameSpeaker role round (round.receiveMessage depot role frame kind).1 := by
  -- The steps of a chunk change the item, its counters and the depot.
  refine receiveMessage_keeps (fun base grown same => same.trans ?_)
    (fun base same => same.trans ?_) (fun base same => same.trans ?_)
    (fun base fault same => same.trans (SameSpeaker.fault base fault)) (refl round) depot frame kind
  · cases role <;> exact ⟨rfl, rfl, rfl, rfl⟩
  · cases role <;> exact ⟨rfl, rfl, rfl, rfl⟩
  · simp only [onContext, finishItem_eq]
    cases role <;> exact ⟨rfl, rfl, rfl, rfl⟩

end SameSpeaker

variable [Transferable ι] [Reversible ι] [Depot δ ι]

/-- Whatever is done to a round, it keeps its settings and the identity of its end. -/
theorem settings_perform (role : Role) (round : Round ι) (depot : δ) (operation : Operation ι) :
    (round.perform role depot operation).2.1.context.settings = round.context.settings ∧
      (round.perform role depot operation).2.1.context.identity = round.context.identity := by
  -- Sending leaves alone whatever the incoming direction sees.
  have sent : ∀ {act : Round ι → Except RoundFault Markup × Round ι}, Outgoing role act →
      (act round).2.context.settings = round.context.settings ∧
        (act round).2.context.identity = round.context.identity := by
    intro act outgoing
    have kept := outgoing.context_eq round
    have settings := congrArg Context.settings kept
    have identity := congrArg Context.identity kept
    exact ⟨settings, identity⟩
  cases operation with
  | read phase bytes =>
    -- Reading changes the intake only.
    simp only [perform, Context.read]
    split <;> exact ⟨rfl, rfl⟩
  | dispatch transit phase inbound =>
    cases transit with
    | send =>
      cases phase with
      -- What is sent leaves the settings and the identity alone.
      | header => cases inbound <;> exact sent (outgoing_sendHeader role)
      | message => cases inbound <;> exact sent (outgoing_sendMessage role)
    | receive =>
      cases inbound with
      | none => cases phase <;> exact ⟨rfl, rfl⟩
      | some inbound =>
        cases phase with
        | header =>
          -- So does what is received, whether it is a header or a chunk.
          have same := SameSpeaker.receiveHeader role depot inbound.frame round
          exact ⟨same.settings, same.identity⟩
        | message =>
          have same := SameSpeaker.receiveMessage role depot inbound.frame inbound.kind round
          exact ⟨same.settings, same.identity⟩
  | act action =>
    have same := SameSpeaker.apply role action round
    exact ⟨same.settings, same.identity⟩
  | reset => cases role <;> exact ⟨rfl, rfl⟩
  | _ => exact ⟨rfl, rfl⟩

end Round

end SentinelRounds
