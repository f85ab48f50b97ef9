import SentinelRounds.Proofs.Net.Halves
import SentinelRounds.Proofs.Round.Merging

/-! A request keeps the signal that its response waits for to itself, until it has come to its end. -/

namespace SentinelRounds

variable {δ ι : Type}

section

variable [Depot δ ι] (role : Role) (peer : Identity) (count : Nat) (start : δ) (done : List Deed)
  (round : Round ι) (depot : δ)

/-- A round is receiving its items, and no response has been told that they are complete. -/
def Round.Awaits : Prop :=
  round.Fills role peer count start depot ∧ round.context.signals.messageReceived = false

/-- A round has taken a header that announces items, and no response has been told of their end. -/
def Round.Greets : Prop :=
  (round.Fills role peer count start depot ∨ round.context.receiving.active = false) ∧
    round.context.signals.messageReceived = false

/-- All items of a round have been merged, and no response has been told so. -/
def Round.Silent : Prop :=
  round.Filled role peer count start depot ∧ round.context.signals.messageReceived = false

/-- All items of a round have been merged, and the hooks of their message have run. -/
def Round.Heard : Prop :=
  round.Filled role peer count start depot ∧ .hooked .receive .message ∈ done

/-- How a call that receives a request's message sees to it that no response comes too early. -/
def Call.Withholds : Call → Prop
  | .choose .receive | .enter .receive .message | .search .message _ | .await .message _
  | .absorb .message _ => round.Awaits role peer count start depot
  | .next => round.Awaits role peer count start depot ∨
    (round.context.receiving.active = false ∧
      (round.context.errors ≠ 0 ∨ round.Silent role peer count start depot))
  | .conclude .receive .message =>
    round.context.errors ≠ 0 ∨ round.Silent role peer count start depot
  | .signal .receive .message =>
    round.context.errors ≠ 0 ∨ (round.Silent role peer count start depot ∧
      .hooked .receive .message ∈ done)
  | .succeeded => round.context.errors ≠ 0 ∨ round.Heard role peer count start done depot
  | .halt _ | .close _ | .release _ =>
    round.context.errors ≠ 0 ∨ round.context.signals.messageReceived = false
  | .failed _ => True
  | _ => False

/-- How a server on its way through a request's message sees to it. -/
inductive Plan.Withholds : Plan → Prop
  | ifDue (greets : round.Greets role peer count start depot) : Withholds .request
  | find (awaits : round.Awaits role peer count start depot) : Withholds [.find .receive]
  | call {call : Call} (withholds : call.Withholds role peer count start done round depot)
      (going : call.isOver = false) : Withholds [.call call]
  | done (spent : round.context.errors ≠ 0 ∨ round.Heard role peer count start done depot ∨
      round.context.signals.messageReceived = false) : Withholds []

end

/-- Reading bytes leaves a round receiving. -/
theorem Round.Awaits.read [Depot δ ι] {role : Role} {peer : Identity} {count : Nat}
    {start depot : δ} {round : Round ι} (awaits : round.Awaits role peer count start depot)
    (intake : Intake) :
    (round.onContext fun context => { context with intake }).Awaits role peer count start depot := by
  -- Reading changes nothing but the intake.
  obtain ⟨fills, silent⟩ := awaits
  exact ⟨fills.uncut (round.spared_onContext role _ rfl rfl (.inl rfl)) rfl, silent⟩

/-- Whether a call of the request takes no more frames. -/
def Call.Spent (context : Context) : Call → Prop
  | .next => context.receiving.active = false
  | .conclude .receive .message | .signal .receive .message => True
  | .halt _ | .close _ | .release _ => True
  | _ => False

/-- Whether what is left of a request takes no more frames. -/
inductive Plan.Spent (context : Context) : Plan → Prop
  | call {call : Call} (spent : call.Spent context) : Spent context [.call call]
  | done : Spent context []

/-- Such a request is not changed by what the response does. -/
theorem Plan.Spent.spared {role : Role} {before after : Round ι} {plan : Plan}
    (spent : plan.Spent before.context) (spared : before.Spared role after) :
    plan.Spent after.context := by
  -- All that is left of such a request is the end of its call.
  cases spent with
  | done => exact .done
  | call spent =>
    rename_i call
    refine .call ?_
    cases call with
    | next => exact spared.idle spent
    | conclude transit phase | signal transit phase =>
      cases transit <;> cases phase <;> exact spent
    | _ => exact spent

section

variable [Transferable ι] [Reversible ι] [Depot δ ι]
variable {hooks : Hooks ι} {role : Role} {peer : Identity} {count : Nat} {start depot store : δ}
  {done : List Deed} {round after : Round ι} {deed : Option Deed}

/-- No response is told of the end of a message before all items are merged and the hooks have run. -/
theorem Call.Moves.withholds {call onward : Call}
    (moves : Call.Moves hooks role call round depot deed onward after store)
    (withholds : call.Withholds role peer count start done round depot) :
    onward.Withholds role peer count start (done ++ deed.toList) after store := by
  -- The call is followed from the choice of its phase to its signal.
  cases moves with
  | choose transit =>
    cases transit with
    | send => cases withholds
    | receive =>
      -- A chunk is still to come, so it is the message that is chosen.
      have active : round.context.due .receive = true := withholds.1.active
      rw [active]
      exact withholds
  | enter transit phase =>
    cases transit <;> cases phase
    case receive.message => exact .inl withholds
    all_goals cases withholds
  | more _ due =>
    rcases withholds with awaits | ⟨idle, _⟩
    · exact awaits
    · -- A message that is complete is not due any more.
      rw [due] at idle
      cases idle
  | complete _ idle =>
    rcases withholds with awaits | ⟨_, spent⟩
    · have active := awaits.1.active
      rw [idle] at active
      cases active
    · exact spent
  | find phase _ intake | starve phase _ intake =>
    cases phase with
    | header => cases withholds
    | message => exact Round.Awaits.read withholds intake
  | arrive phase =>
    cases phase with
    | header => cases withholds
    | message => exact withholds
  | reject phase | starveOut phase =>
    cases phase with
    | header => cases withholds
    | message => exact .inr withholds.2
  | fold inbound =>
    -- The chunk may have been the last one, which makes the message complete but tells nobody.
    obtain ⟨fills, silent⟩ := withholds
    rcases fills.receive inbound.frame inbound.kind with ⟨fills, same⟩ | ⟨idle, spent⟩
    · exact .inl ⟨fills, same.trans silent⟩
    · refine .inr ⟨idle, ?_⟩
      rcases spent with faulted | ⟨filled, same⟩
      · exact .inl faulted
      · exact .inr ⟨filled, same.trans silent⟩
  | conclude transit phase =>
    cases transit <;> cases phase
    case receive.message =>
      -- The hooks run now, and whatever they do, what has been received stays.
      have spared := round.spared_hooked hooks role .receive .message
      have signals := round.signals_hooked hooks role .receive .message
      rcases withholds with faulted | ⟨filled, silent⟩
      · exact .inl (by rw [spared.errors]; exact faulted)
      · exact .inr ⟨⟨filled.spared spared, by rw [signals]; exact silent⟩, by simp⟩
    all_goals cases withholds
  | signal transit phase =>
    cases transit <;> cases phase
    case receive.message =>
      -- Only now the response is told, after the hooks.
      rcases withholds with faulted | ⟨⟨filled, _⟩, heard⟩
      · exact .inl faulted
      · exact .inr ⟨filled.spared (round.spared_onContext role _ rfl rfl (.inl rfl)),
          by simpa using heard⟩
    all_goals cases withholds
  | halt | close => exact withholds
  | release => trivial
  | _ => cases withholds

/-- The same holds on the whole way through the message. -/
theorem Plan.Moves.withholds {plan onward : Plan}
    (moves : Plan.Moves hooks role plan round depot deed onward after store)
    (withholds : plan.Withholds role peer count start done round depot) :
    onward.Withholds role peer count start (done ++ deed.toList) after store := by
  -- The request is in front of its message, at it, or behind it.
  cases withholds with
  | ifDue greets =>
    obtain ⟨state, silent⟩ := greets
    cases moves with
    | proceed _ _ due =>
      rcases state with fills | idle
      · exact .find ⟨fills, silent⟩
      · -- The hooks have halted the round, so nothing is due.
        have active : round.context.receiving.active = true := due
        rw [idle] at active
        cases active
    | skip => exact .done (.inr (.inr silent))
  | find awaits =>
    cases moves
    exact .call awaits rfl
  | call withholds =>
    cases moves with
    | call _ moves going => exact .call (moves.withholds withholds) going
    | succeed _ moves =>
      rcases moves.withholds withholds with faulted | heard
      · exact .done (.inl faulted)
      · exact .done (.inr (.inl heard))
  | done => cases moves

/-- A request that takes no more frames has nothing left that does not return. -/
theorem Plan.Falls.spent {plan : Plan}
    (falls : Plan.Falls hooks role plan round depot deed after store)
    (spent : plan.Spent round.context) : deed = none := by
  -- Only its last step after a failure is left.
  cases spent with
  | done => cases falls
  | call spent =>
    obtain ⟨_, moves⟩ := falls
    rcases moves.failed_cases with ⟨_, quiet, _⟩ | ⟨_, _, rfl, _⟩ | ⟨_, _, rfl, _⟩
    · exact quiet
    · cases spent
    · cases spent

/-- A request that takes no more frames does not take any later, and spares what it has received. -/
theorem Plan.Moves.spent {plan onward : Plan}
    (moves : Plan.Moves hooks role plan round depot deed onward after store)
    (spent : plan.Spent round.context) :
    onward.Spent after.context ∧ round.Spared role after ∧ store = depot ∧
      ∀ phase, deed ≠ some (.took phase) := by
  -- The request has come to its end, or its call is about to.
  cases spent with
  | done => cases moves
  | call spent =>
    -- What is left is the end of the message, or the way out after a failure.
    cases moves with
    | call _ moves going =>
      cases moves with
      | complete => exact ⟨.call trivial, .refl _, rfl, fun _ same => by cases same⟩
      | more _ due =>
        have idle : round.context.receiving.active = false := spent
        rw [due] at idle
        cases idle
      | conclude transit phase =>
        cases transit <;> cases phase
        case receive.message =>
          exact ⟨.call trivial, round.spared_hooked .., rfl, fun _ same => by cases same⟩
        all_goals cases spent
      | halt =>
        exact ⟨.call trivial, round.spared_onContext role _ rfl rfl (.inr rfl), rfl,
          fun _ same => by cases same⟩
      | close => exact ⟨.call trivial, .refl _, rfl, fun _ same => by cases same⟩
      | release | signal => cases going
      | _ => cases spent
    | succeed _ moves =>
      generalize ended : Call.succeeded = onward at moves
      cases moves with
      | signal =>
        exact ⟨.done, round.spared_onContext role _ rfl rfl (.inl rfl), rfl,
          fun _ same => by cases same⟩
      | enter | write => cases spent
      | _ => cases ended

end

/-- Before a call has succeeded, only a fault tells a response of the end of a message. -/
theorem Call.Withholds.told [Depot δ ι] {role : Role} {peer : Identity} {count : Nat}
    {start depot : δ} {done : List Deed} {round : Round ι} {call : Call}
    (withholds : call.Withholds role peer count start done round depot)
    (told : round.context.signals.messageReceived = true) (going : call.isOver = false) :
    call.Spent round.context ∧ round.context.errors ≠ 0 := by
  -- The signal is set, so it cannot be withheld.
  have loud : round.context.signals.messageReceived ≠ false := by simp [told]
  -- Wherever the signal is withheld without a fault, it cannot be set.
  cases call with
  | next =>
    rcases withholds with awaits | ⟨idle, faulted | silent⟩
    · exact absurd awaits.2 loud
    · exact ⟨idle, faulted⟩
    · exact absurd silent.2 loud
  | conclude transit phase =>
    cases transit <;> cases phase
    case receive.message =>
      rcases withholds with faulted | silent
      · exact ⟨trivial, faulted⟩
      · exact absurd silent.2 loud
    all_goals cases withholds
  | signal transit phase =>
    cases transit <;> cases phase
    case receive.message =>
      rcases withholds with faulted | ⟨silent, _⟩
      · exact ⟨trivial, faulted⟩
      · exact absurd silent.2 loud
    all_goals cases withholds
  | halt | close | release =>
    rcases withholds with faulted | silent
    · exact ⟨trivial, faulted⟩
    · exact absurd silent loud
  | choose transit =>
    cases transit with
    | send => cases withholds
    | receive => exact absurd withholds.2 loud
  | enter transit phase =>
    cases transit <;> cases phase
    case receive.message => exact absurd withholds.2 loud
    all_goals cases withholds
  | search phase | await phase | absorb phase =>
    cases phase with
    | header => cases withholds
    | message => exact absurd withholds.2 loud
  | succeeded | failed => cases going
  | _ => cases withholds

/-- A response that is told of the end of a message finds all of it merged, unless there was a fault. -/
theorem Plan.Withholds.told [Depot δ ι] {role : Role} {peer : Identity} {count : Nat}
    {start depot : δ} {done : List Deed} {round : Round ι} {plan : Plan}
    (withholds : plan.Withholds role peer count start done round depot)
    (told : round.context.signals.messageReceived = true) :
    plan.Spent round.context ∧ (round.context.errors = 0 → plan = [] ∧
      round.Heard role peer count start done depot) := by
  -- The signal is set, so it cannot be withheld.
  have loud : round.context.signals.messageReceived ≠ false := by simp [told]
  cases withholds with
  | ifDue greets => exact absurd greets.2 loud
  | find awaits => exact absurd awaits.2 loud
  | call withholds going =>
    obtain ⟨spent, faulted⟩ := withholds.told told going
    exact ⟨.call spent, fun sound => absurd sound faulted⟩
  | done spent =>
    refine ⟨.done, fun sound => ⟨rfl, ?_⟩⟩
    rcases spent with faulted | heard | silent
    · exact absurd sound faulted
    · exact heard
    · exact absurd silent loud

end SentinelRounds
