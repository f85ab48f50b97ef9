import SentinelRounds.Net.Service
import SentinelRounds.Proofs.Net.Fetch
import SentinelRounds.Proofs.Round.Actions
import SentinelRounds.Proofs.Round.Outcomes

/-! What single steps of calls, plans and services make of a round and a depot. -/

namespace SentinelRounds

/-- What a step does besides changing the state of a round. -/
inductive Deed
  /-- A frame has been handed to the round. -/
  | took (phase : Phase)
  /-- A frame has gone out. -/
  | wrote (phase : Phase) (bytes : Bytes)
  /-- The hooks of a phase have run; those of a received header run as soon as it is taken. -/
  | hooked (transit : Transit) (phase : Phase)
  /-- A half that had decided on its message phase has lost its message to the other half. -/
  | preempted (transit : Transit)
  deriving DecidableEq, Repr

/-- Whether a message is due in a direction. -/
def Context.due (context : Context) : Transit → Bool
  | .send => context.sending.active
  | .receive => context.receiving.active

/-- The next frame of a phase. -/
def Round.compose {ι : Type} [Transferable ι] (round : Round ι) (role : Role) :
    Phase → Except RoundFault Markup × Round ι
  | .header => round.sendHeader role
  | .message => round.sendMessage role

/-- The round once the hooks of a completed phase have run. -/
def Round.hooked {ι : Type} [Reversible ι] (hooks : Hooks ι) (role : Role) (transit : Transit)
    (phase : Phase) (round : Round ι) : Round ι :=
  Action.applyAll (hooks.actions (.completed transit phase) round) role round

section

variable {ι : Type} [Reversible ι] (hooks : Hooks ι) (role : Role) (transit : Transit)
  (phase : Phase) (round : Round ι)

/-- Hooks spare what has been received. -/
theorem Round.spared_hooked : round.Spared role (round.hooked hooks role transit phase) :=
  Action.spared_applyAll ..

/-- Hooks set no signal, and clear none. -/
theorem Round.signals_hooked :
    (round.hooked hooks role transit phase).context.signals = round.context.signals :=
  Action.signals_applyAll ..

/-- Hooks that do not halt leave alone how far the incoming message has come. -/
theorem Round.hooked_unhalted
    (unhalted : .halt ∉ hooks.actions (.completed transit phase) round) :
    (round.hooked hooks role transit phase).context.receiving = round.context.receiving :=
  Action.applyAll_unhalted unhalted role round

end

variable {δ ι : Type}

/-- Hooks leave the depot alone. -/
theorem Hooks.depot_run [Reversible ι] (hooks : Hooks ι) (event : Event) (role : Role)
    (round : Round ι) (site : Site δ) : (hooks.run event role round site).2.depot = site.depot := by
  -- Hooks act on the round, and the journal is all they add to the site.
  unfold Hooks.run
  simp only
  split <;> rfl

namespace Call

/-- What a call does in its next step, given what the socket answers. -/
def deed? (reply : Reply) : Call → Option Deed
  | .absorb phase _ => some (.took phase)
  | .write phase bytes => if reply = .done then some (.wrote phase bytes) else none
  | .conclude transit phase => some (.hooked transit phase)
  | _ => none

/-- Where a call goes once a frame of a phase has gone out. -/
def written : Phase → Call
  | .header => .conclude .send .header
  | .message => .compose .message

/-- One step of a call: what it makes of a round and a depot, and what it does besides. -/
inductive Moves [Transferable ι] [Reversible ι] [Depot δ ι] (hooks : Hooks ι) (role : Role) :
    Call → Round ι → δ → Option Deed → Call → Round ι → δ → Prop
  | choose (transit : Transit) (round : Round ι) (depot : δ) :
    Moves hooks role (.choose transit) round depot none
      (.enter transit (if round.context.due transit then .message else .header)) round depot
  | enter (transit : Transit) (phase : Phase) (round : Round ι) (depot : δ) :
    Moves hooks role (.enter transit phase) round depot none (start transit phase) round depot
  | more {round : Round ι} (depot : δ) (due : round.context.receiving.active = true) :
    Moves hooks role .next round depot none (.search .message []) round depot
  | complete {round : Round ι} (depot : δ) (idle : round.context.receiving.active = false) :
    Moves hooks role .next round depot none (.conclude .receive .message) round depot
  | find (phase : Phase) (arrived : Bytes) (intake : Intake) (inbound : Round.Inbound)
      (round : Round ι) (depot : δ) :
    Moves hooks role (.search phase arrived) round depot none (.absorb phase inbound)
      (round.onContext fun context => { context with intake }) depot
  | starve (phase : Phase) (arrived : Bytes) (intake : Intake) (spare : Nat) (round : Round ι)
      (depot : δ) :
    Moves hooks role (.search phase arrived) round depot none (.await phase spare)
      (round.onContext fun context => { context with intake }) depot
  | reject (phase : Phase) (arrived : Bytes) (intake : Intake) (fault : LinkFault)
      (round : Round ι) (depot : δ) :
    Moves hooks role (.search phase arrived) round depot none (.halt fault)
      (round.onContext fun context => { context with intake }) depot
  | arrive (phase : Phase) (spare : Nat) (bytes : Bytes) (round : Round ι) (depot : δ) :
    Moves hooks role (.await phase spare) round depot none (.search phase bytes) round depot
  | starveOut (phase : Phase) (spare : Nat) (fault : LinkFault) (round : Round ι) (depot : δ) :
    Moves hooks role (.await phase spare) round depot none (.halt fault) round depot
  | greet {inbound : Round.Inbound} {round : Round ι} {depot : δ}
      (returned : round.fatality depot role inbound.frame = none) :
    Moves hooks role (.absorb .header inbound) round depot (some (.took .header))
      (.signal .receive .header)
      ((round.receiveHeader depot role inbound.frame).1.hooked hooks role .receive .header)
      (round.receiveHeader depot role inbound.frame).2
  | lose {inbound : Round.Inbound} {round : Round ι} {depot : δ} {fault : RoundFault}
      (lost : round.fatality depot role inbound.frame = some fault) :
    Moves hooks role (.absorb .header inbound) round depot (some (.took .header))
      (.failed (.round fault)) (round.receiveHeader depot role inbound.frame).1
      (round.receiveHeader depot role inbound.frame).2
  | fold (inbound : Round.Inbound) (round : Round ι) (depot : δ) :
    Moves hooks role (.absorb .message inbound) round depot (some (.took .message)) .next
      (round.receiveMessage depot role inbound.frame inbound.kind).1
      (round.receiveMessage depot role inbound.frame inbound.kind).2
  | finish {round : Round ι} (depot : δ) (idle : round.context.sending.active = false) :
    Moves hooks role (.compose .message) round depot none (.conclude .send .message) round depot
  | make {phase : Phase} {round after : Round ι} {kind : Markup} (depot : δ)
      (made : round.compose role phase = (.ok kind, after))
      (due : phase = .message → round.context.sending.active = true) :
    Moves hooks role (.compose phase) round depot none (.write phase after.context.output)
      (after.onContext fun context => { context with output := [] }) depot
  | spoil {phase : Phase} {round after : Round ι} {fault : RoundFault} (depot : δ)
      (made : round.compose role phase = (.error fault, after)) (returned : fault.isFatal = false) :
    Moves hooks role (.compose phase) round depot none (.halt (.round fault)) after depot
  | perish {phase : Phase} {round after : Round ι} {fault : RoundFault} (depot : δ)
      (made : round.compose role phase = (.error fault, after)) (fatal : fault.isFatal = true) :
    Moves hooks role (.compose phase) round depot none (.failed (.round fault)) after depot
  | write (phase : Phase) (bytes : Bytes) (round : Round ι) (depot : δ) :
    Moves hooks role (.write phase bytes) round depot (some (.wrote phase bytes))
      (written phase) round depot
  | block (phase : Phase) (bytes : Bytes) (fault : LinkFault) (round : Round ι) (depot : δ) :
    Moves hooks role (.write phase bytes) round depot none (.halt fault) round depot
  | conclude (transit : Transit) (phase : Phase) (round : Round ι) (depot : δ) :
    Moves hooks role (.conclude transit phase) round depot (some (.hooked transit phase))
      (.signal transit phase) (round.hooked hooks role transit phase) depot
  | signal (transit : Transit) (phase : Phase) (round : Round ι) (depot : δ) :
    Moves hooks role (.signal transit phase) round depot none .succeeded
      (round.onContext fun context => context.raise (.ofPhase transit phase)) depot
  | halt (fault : LinkFault) (round : Round ι) (depot : δ) :
    Moves hooks role (.halt fault) round depot none (.close fault) (round.onContext Context.halt)
      depot
  | close (fault : LinkFault) (round : Round ι) (depot : δ) :
    Moves hooks role (.close fault) round depot none (.release fault) round depot
  | release (fault : LinkFault) (round : Round ι) (depot : δ) :
    Moves hooks role (.release fault) round depot none (.failed fault)
      (round.onContext Context.release) depot

variable [Transferable ι] [Reversible ι] [Depot δ ι]
variable {hooks : Hooks ι} {reply : Reply} {onward : Call} {link after : Link ι}
  {site left : Site δ} {phase : Phase}

/-- A look at the bytes that have come in finds a frame, wants more bytes, or fails. -/
theorem moves_of_search {arrived : Bytes}
    (stepped : (search phase arrived).step hooks reply link site = some (onward, after, left)) :
    Moves hooks link.role (.search phase arrived) link.round site.depot none onward after.round
      left.depot ∧ after.role = link.role := by
  -- The step is the look itself.
  simp only [step, look_eq, Option.some.injEq, Prod.mk.injEq] at stepped
  obtain ⟨rfl, rfl, rfl⟩ := stepped
  -- The intake is all that a look changes.
  generalize link.round.context.intake.receive phase arrived = answer
  obtain ⟨fault | kind, intake⟩ := answer
  · exact ⟨.reject phase arrived intake _ _ _, rfl⟩
  · cases kind with
    | some kind => exact ⟨.find phase arrived _ _ _ _, rfl⟩
    | none =>
      simp only
      split
      · exact ⟨.reject phase arrived intake _ _ _, rfl⟩
      · exact ⟨.starve phase arrived intake _ _ _, rfl⟩

/-- A wait for bytes ends with bytes, or it fails. -/
theorem moves_of_await {spare : Nat}
    (stepped : (await phase spare).step hooks reply link site = some (onward, after, left)) :
    Moves hooks link.role (.await phase spare) link.round site.depot none onward after.round
      left.depot ∧ after.role = link.role := by
  -- Only bytes are handed on; the end, a fault and an interruption are failures.
  simp only [step, Option.map_eq_some_iff] at stepped
  obtain ⟨moved, arrived, moves⟩ := stepped
  cases moves
  unfold arrive at arrived
  split at arrived <;> cases arrived
  · exact ⟨.starveOut .., rfl⟩
  · exact ⟨.starveOut .., rfl⟩
  · exact ⟨.arrive .., rfl⟩
  · exact ⟨.starveOut .., rfl⟩

/-- A frame that has been found is handed to the round. -/
theorem moves_of_absorb {inbound : Round.Inbound}
    (stepped : (absorb phase inbound).step hooks reply link site = some (onward, after, left)) :
    Moves hooks link.role (.absorb phase inbound) link.round site.depot (some (.took phase)) onward
      after.round left.depot ∧ after.role = link.role := by
  -- A header may be one that the round does not return from.
  simp only [step, Option.some.injEq] at stepped
  cases phase with
  | header =>
    cases lost : link.round.fatality site.depot link.role inbound.frame with
    | none =>
      simp only [take, Round.dispatch, lost, report, Prod.mk.injEq] at stepped
      obtain ⟨rfl, rfl, rfl⟩ := stepped
      rw [Hooks.depot_run]
      exact ⟨.greet lost, rfl⟩
    | some fault =>
      -- The round does not return, so its hooks do not run.
      have fatal := Round.isFatal_of_fatality lost
      simp only [take, Round.dispatch, lost, fail, fatal, if_true, Prod.mk.injEq] at stepped
      obtain ⟨rfl, rfl, rfl⟩ := stepped
      exact ⟨.lose lost, rfl⟩
  | message =>
    simp only [take, Round.dispatch, Prod.mk.injEq] at stepped
    obtain ⟨rfl, rfl, rfl⟩ := stepped
    exact ⟨.fold .., rfl⟩

/-- The next frame of a phase is made, or it cannot be, or there is none. -/
theorem moves_of_compose
    (stepped : (compose phase).step hooks reply link site = some (onward, after, left)) :
    Moves hooks link.role (.compose phase) link.round site.depot none onward after.round
      left.depot ∧ after.role = link.role := by
  -- There is no next frame if the message has been sent.
  simp only [step, Option.some.injEq] at stepped
  unfold prepare at stepped
  split at stepped
  · rename_i complete
    obtain ⟨rfl, idle⟩ := complete
    cases stepped
    exact ⟨.finish _ idle, rfl⟩
  · rename_i incomplete
    have due : phase = .message → link.round.context.sending.active = true := fun same =>
      eq_true_of_ne_false fun idle => incomplete ⟨same, idle⟩
    -- Whatever the phase, the operation is the one that makes its frame.
    have sent : link.round.dispatch site.depot link.role .send phase none =
        ((link.round.compose link.role phase).1, (link.round.compose link.role phase).2,
          site.depot) := by
      cases phase <;> rfl
    rw [sent] at stepped
    rcases made : link.round.compose link.role phase with ⟨fault | kind, round⟩
    · cases fatal : fault.isFatal with
      | false =>
        simp only [made, fail, fatal, Bool.false_eq_true, if_false] at stepped
        cases stepped
        exact ⟨.spoil _ made fatal, rfl⟩
      | true =>
        simp only [made, fail, fatal, if_true] at stepped
        cases stepped
        exact ⟨.perish _ made fatal, rfl⟩
    · simp only [made] at stepped
      cases stepped
      exact ⟨.make _ made due, rfl⟩

/-- A frame goes out whole, or it does not. -/
theorem moves_of_write {bytes : Bytes}
    (stepped : (write phase bytes).step hooks reply link site = some (onward, after, left)) :
    Moves hooks link.role (.write phase bytes) link.round site.depot
      ((write phase bytes).deed? reply) onward after.round left.depot ∧ after.role = link.role := by
  -- The socket takes all the bytes, or it fails.
  simp only [step, Option.map_eq_some_iff] at stepped
  obtain ⟨moved, settled, moves⟩ := stepped
  cases moves
  unfold settle at settled
  split at settled
  · cases phase <;> cases settled
    · exact ⟨.write .header bytes _ _, rfl⟩
    · exact ⟨.write .message bytes _ _, rfl⟩
  · cases settled
    exact ⟨.block .., rfl⟩
  all_goals cases settled

/-- At the end of a phase its hooks run. -/
theorem moves_of_conclude {transit : Transit}
    (stepped : (conclude transit phase).step hooks reply link site = some (onward, after, left)) :
    Moves hooks link.role (.conclude transit phase) link.round site.depot
      (some (.hooked transit phase)) onward after.round left.depot ∧ after.role = link.role := by
  -- In each direction and phase something else is counted, and nothing else differs.
  have reported : ∃ stats, onward = .signal transit phase ∧
      after = { link with round := link.round.hooked hooks link.role transit phase, stats } ∧
      left = (hooks.run (.completed transit phase) link.role link.round site).2 := by
    cases transit <;> cases phase <;>
      · simp only [step, report, Option.some.injEq, Prod.mk.injEq] at stepped
        obtain ⟨rfl, rfl, rfl⟩ := stepped
        exact ⟨_, rfl, rfl, rfl⟩
  obtain ⟨stats, rfl, rfl, rfl⟩ := reported
  rw [Hooks.depot_run]
  exact ⟨.conclude .., rfl⟩

/-- Every step of a call is one of these. -/
theorem moves_of_step {call : Call}
    (stepped : call.step hooks reply link site = some (onward, after, left)) :
    Moves hooks link.role call link.round site.depot (call.deed? reply) onward after.round
      left.depot ∧ after.role = link.role := by
  -- The cases are the places at which a call can be.
  cases call with
  | choose transit =>
    cases stepped
    have chosen : link.duePhase transit =
        if link.round.context.due transit then .message else .header := by
      cases transit <;> rfl
    rw [chosen]
    exact ⟨.choose .., rfl⟩
  | enter transit phase =>
    cases stepped
    exact ⟨.enter .., rfl⟩
  | next =>
    -- Whether another chunk is due decides how the call goes on.
    cases stepped
    refine ⟨?_, rfl⟩
    split
    · rename_i due
      exact .more _ due
    · rename_i idle
      exact .complete _ (Bool.not_eq_true _ ▸ idle)
  | search phase arrived => exact moves_of_search stepped
  | await phase spare => exact moves_of_await stepped
  | absorb phase inbound => exact moves_of_absorb stepped
  | compose phase => exact moves_of_compose stepped
  | write phase bytes => exact moves_of_write stepped
  | conclude transit phase => exact moves_of_conclude stepped
  | signal transit phase =>
    cases stepped
    exact ⟨.signal .., rfl⟩
  | halt fault =>
    cases stepped
    exact ⟨.halt .., rfl⟩
  | close fault =>
    cases stepped
    exact ⟨.close .., rfl⟩
  | release fault =>
    cases stepped
    exact ⟨.release .., rfl⟩
  | succeeded => cases stepped
  | failed fault => cases stepped

/--
A call fails in its last step after a failure, when it has let go of everything, or because it does
not return from a header or from making a frame.
-/
theorem Moves.failed_cases {hooks : Hooks ι} {role : Role} {call : Call} {fault : LinkFault}
    {round after : Round ι} {depot store : δ} {deed : Option Deed}
    (moves : Moves hooks role call round depot deed (.failed fault) after store) :
    (call = .release fault ∧ deed = none ∧ after = round.onContext Context.release) ∨
    (∃ inbound cause, call = .absorb .header inbound ∧ deed = some (.took .header) ∧
      fault = .round cause ∧ round.fatality depot role inbound.frame = some cause ∧
      after = (round.receiveHeader depot role inbound.frame).1 ∧
      store = (round.receiveHeader depot role inbound.frame).2) ∨
    ∃ phase cause, call = .compose phase ∧ deed = none ∧ fault = .round cause ∧
      cause.isFatal = true ∧ round.compose role phase = (.error cause, after) ∧ store = depot := by
  -- Only three kinds of steps end with a failure.
  generalize failed : Call.failed fault = onward at moves
  cases moves with
  | release =>
    cases failed
    exact .inl ⟨rfl, rfl, rfl⟩
  | lose lost =>
    cases failed
    exact .inr (.inl ⟨_, _, rfl, rfl, rfl, lost, rfl, rfl⟩)
  | perish _ made fatal =>
    cases failed
    exact .inr (.inr ⟨_, _, rfl, rfl, rfl, fatal, made, rfl⟩)
  | enter transit phase => cases transit <;> cases phase <;> cases failed
  | write phase => cases phase <;> cases failed
  | _ => cases failed

/-- A call that returns does nothing else in the step in which it fails. -/
theorem Moves.of_failed {hooks : Hooks ι} {role : Role} {call : Call} {fault : LinkFault}
    {round after : Round ι} {depot store : δ} {deed : Option Deed}
    (moves : Moves hooks role call round depot deed (.failed fault) after store)
    (returned : fault.isFatal = false) :
    deed = none ∧ ∀ transit, after.context.due transit = round.context.due transit := by
  -- A fault that is not fatal is the one that the call is released with.
  rcases moves.failed_cases with ⟨_, rfl, rfl⟩ | ⟨_, cause, _, _, rfl, lost, _⟩ |
    ⟨_, cause, _, _, rfl, fatal, _⟩
  · exact ⟨rfl, fun transit => by cases transit <;> rfl⟩
  · cases returned.symm.trans (Round.isFatal_of_fatality lost)
  · cases returned.symm.trans fatal

end Call

namespace Plan

/-- What a plan does in its next step, given what the socket answers. -/
def deed? (reply : Reply) : Plan → Option Deed
  | .call call :: _ => call.deed? reply
  | _ => none

/-- Whether a half has decided on its message phase, and has yet to choose it. -/
def Decided (transit : Transit) (plan : Plan) : Prop :=
  plan = [.find transit] ∨ plan = [.call (.choose transit)]

instance (transit : Transit) (plan : Plan) : Decidable (plan.Decided transit) :=
  inferInstanceAs (Decidable (_ ∨ _))

/-- What a half loses in a step of the other half. -/
def losses (transit : Transit) (plan : Plan) (before after : Context) : List Deed :=
  if plan.Decided transit ∧ before.due transit = true ∧ after.due transit = false then
    [.preempted transit]
  else []

/-- All that a half can lose is its message. -/
theorem mem_losses {transit : Transit} {plan : Plan} {before after : Context} {deed : Deed}
    (lost : deed ∈ plan.losses transit before after) : deed = .preempted transit := by
  -- There is at most one loss.
  unfold losses at lost
  split at lost
  · exact List.mem_singleton.mp lost
  · cases lost

/-- A half that has decided on its message still has it, unless it has lost it. -/
theorem due_of_unlost {transit : Transit} {plan : Plan} {before after : Context}
    (decided : plan.Decided transit) (due : before.due transit = true)
    (unlost : .preempted transit ∉ plan.losses transit before after) : after.due transit = true := by
  -- Otherwise the end of the message would be its loss.
  by_contra ended
  refine unlost ?_
  rw [losses, if_pos ⟨decided, due, Bool.not_eq_true _ ▸ ended⟩]
  exact List.mem_singleton_self _

/-- Where no message ends, a half loses nothing. -/
theorem losses_same (transit : Transit) (plan : Plan) {before after : Context}
    (same : after.due transit = before.due transit) : plan.losses transit before after = [] := by
  -- A loss is the end of a message.
  refine if_neg fun lost => ?_
  obtain ⟨_, due, ended⟩ := lost
  rw [same, due] at ended
  cases ended

variable [Transferable ι] [Reversible ι] [Depot δ ι]

/-- One step of a plan: what it makes of a round and a depot, and what it does besides. -/
inductive Moves (hooks : Hooks ι) (role : Role) :
    Plan → Round ι → δ → Option Deed → Plan → Round ι → δ → Prop
  | reset (rest : Plan) (round : Round ι) (depot : δ) :
    Moves hooks role (.reset :: rest) round depot none rest (round.reset role) depot
  | begin (rest : Plan) (round : Round ι) (depot : δ) :
    Moves hooks role (.begin :: rest) round depot none rest round depot
  | await {signal : Signal} (rest : Plan) {round : Round ι} (depot : δ)
      (set : round.context.signals.isSet signal = true) :
    Moves hooks role (.await signal :: rest) round depot none rest round depot
  | proceed {transit : Transit} (rest : Plan) {round : Round ι} (depot : δ)
      (due : round.context.due transit = true) :
    Moves hooks role (.ifDue transit :: rest) round depot none rest round depot
  | skip {transit : Transit} (rest : Plan) {round : Round ι} (depot : δ)
      (idle : round.context.due transit = false) :
    Moves hooks role (.ifDue transit :: rest) round depot none (rest.drop 1) round depot
  | find (transit : Transit) (rest : Plan) (round : Round ι) (depot : δ) :
    Moves hooks role (.find transit :: rest) round depot none (.call (.choose transit) :: rest)
      round depot
  | call {call onward : Call} (rest : Plan) {round after : Round ι} {depot store : δ}
      {deed : Option Deed} (moves : Call.Moves hooks role call round depot deed onward after store)
      (going : onward.isOver = false) :
    Moves hooks role (.call call :: rest) round depot deed (.call onward :: rest) after store
  | succeed {call : Call} (rest : Plan) {round after : Round ι} {depot store : δ}
      {deed : Option Deed}
      (moves : Call.Moves hooks role call round depot deed .succeeded after store) :
    Moves hooks role (.call call :: rest) round depot deed rest after store

/-- The step of a plan in which its call does not return any more. -/
inductive Falls (hooks : Hooks ι) (role : Role) :
    Plan → Round ι → δ → Option Deed → Round ι → δ → Prop
  | call {call : Call} {fault : LinkFault} (rest : Plan) {round after : Round ι} {depot store : δ}
      {deed : Option Deed}
      (moves : Call.Moves hooks role call round depot deed (.failed fault) after store) :
    Falls hooks role (.call call :: rest) round depot deed after store

/--
Every step of a plan is one of these, or the plan comes to nothing without doing anything; or its
call does not return.
-/
theorem moves_of_step {hooks : Hooks ι} {registered : Bool} {reply : Reply} {plan : Plan}
    {progress : Progress} {link after : Link ι} {site left : Site δ}
    (stepped : plan.step hooks registered reply link site = some (progress, after, left)) :
    after.role = link.role ∧
    ((∃ onward, progress = .going onward ∧ Moves hooks link.role plan link.round site.depot
        (plan.deed? reply) onward after.round left.depot) ∨
      ((progress = .lost ∨ ∃ fault, progress = .failed fault ∧ fault.isFatal = false) ∧
        plan.deed? reply = none ∧
        ∀ transit, after.round.context.due transit = link.round.context.due transit) ∨
      ((∃ fault, progress = .failed fault ∧ fault.isFatal = true) ∧ Falls hooks link.role plan
        link.round site.depot (plan.deed? reply) after.round left.depot)) := by
  -- The cases are the tasks that a plan may begin with.
  cases plan with
  | nil => cases stepped
  | cons task rest =>
    cases task with
    | reset =>
      cases stepped
      exact ⟨rfl, .inl ⟨rest, rfl, .reset ..⟩⟩
    | begin =>
      cases stepped
      exact ⟨rfl, .inl ⟨rest, rfl, .begin ..⟩⟩
    | await signal =>
      simp only [step] at stepped
      split at stepped
      · rename_i set
        cases stepped
        exact ⟨rfl, .inl ⟨rest, rfl, .await _ _ set⟩⟩
      · cases stepped
    | ifDue transit =>
      have same : link.isDue transit = link.round.context.due transit := by
        cases transit <;> rfl
      simp only [step, same] at stepped
      cases stepped
      refine ⟨rfl, .inl ⟨_, rfl, ?_⟩⟩
      split
      · rename_i due
        exact .proceed _ _ due
      · rename_i idle
        exact .skip _ _ (Bool.not_eq_true _ ▸ idle)
    | find transit =>
      simp only [step] at stepped
      split at stepped <;> cases stepped
      · exact ⟨rfl, .inl ⟨_, rfl, .find ..⟩⟩
      · exact ⟨rfl, .inr (.inl ⟨.inl rfl, rfl, fun _ => rfl⟩)⟩
    | call call =>
      simp only [step, Option.map_eq_some_iff] at stepped
      obtain ⟨⟨onward, other, store⟩, moved, stepped⟩ := stepped
      cases stepped
      obtain ⟨moves, played⟩ := Call.moves_of_step moved
      refine ⟨played, ?_⟩
      -- Only the last step of a call that has failed makes its plan fail.
      cases onward with
      | succeeded => exact .inl ⟨rest, rfl, .succeed rest moves⟩
      | failed fault =>
        cases fatal : fault.isFatal with
        | false => exact .inr (.inl ⟨.inr ⟨fault, rfl, fatal⟩, moves.of_failed fatal⟩)
        | true => exact .inr (.inr ⟨⟨fault, rfl, fatal⟩, .call rest moves⟩)
      | _ => exact .inl ⟨_, rfl, .call rest moves rfl⟩

end Plan

end SentinelRounds
