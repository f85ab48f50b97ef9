import SentinelRounds.Depot.Memory
import SentinelRounds.Proofs.Net.Opening
import SentinelRounds.Proofs.Round.Outcomes

/-! A response that waits for its request is not left waiting for a request that is over. -/

namespace SentinelRounds

variable {δ ι : Type}

/-- Nobody waits for the rest of a message. -/
def Signals.Ended (signals : Signals) : Prop :=
  signals.chunksReceived = true ∧ signals.messageReceived = true

/-- A message is to be received, or nobody waits for the rest of one. -/
def Context.Promises (context : Context) : Prop :=
  context.receiving.active = true ∨ context.signals.Ended

namespace Round

/-- Whatever a header is answered with, a message is to be received or nobody waits for one. -/
theorem receiveHeader_promises [Depot δ ι] {round : Round ι} {depot : δ} {role : Role}
    {frame : Bytes} (returned : round.fatality depot role frame = none) :
    (round.receiveHeader depot role frame).1.context.Promises := by
  -- The cases are the answers that a header can get.
  rcases round.receiveHeader_cases depot role frame with
    ⟨base, fault, store, _, received⟩ | ⟨base, reason, store, received⟩ |
      ⟨_, _, _, fault, _, _, lost, _⟩ | ⟨header, base, store, items, _, _, _, received⟩
  · rw [received]
    refine .inr ?_
    rw [Signals.Ended, signals_fault]
    exact ⟨rfl, rfl⟩
  · rw [received]
    refine .inr ?_
    rw [Signals.Ended, signals_deny]
    exact ⟨rfl, rfl⟩
  · -- A round that has not returned promises nothing.
    cases returned.symm.trans lost
  · -- With nothing to wait for, the signals are set instead.
    rw [received, expect_eq]
    by_cases idle : header.itemsCount.toNat = 0 ∨ base.context.close = true
    · refine .inr ?_
      simp only [onContext, Signals.Ended, if_pos idle]
      exact ⟨rfl, rfl⟩
    · refine .inl ?_
      simp only [onContext, decide_eq_false idle, Bool.not_false]

/-- A message that is being received goes on, or all of its chunks count as received. -/
theorem receiveMessage_promises [Transferable ι] [Depot δ ι] (round : Round ι) (depot : δ)
    (role : Role) (frame : Bytes) (kind : Markup) (active : round.context.receiving.active = true) :
    let after := (round.receiveMessage depot role frame kind).1.context
    after.receiving.active = true ∨ after.signals.chunksReceived = true := by
  -- A chunk is refused, or it is taken and counted.
  intro after
  rcases round.receiveMessage_cases depot role frame kind with
    ⟨base, fault, store, _, received⟩ | ⟨peer, item, grown, _, _, _, _, received⟩
  · refine .inr ?_
    simp only [after, received, signals_fault]
    rfl
  · have still : ((round.hold role grown).count role).context.receiving.active = true := by
      cases role <;> exact active
    rcases received with ⟨_, received⟩ | ⟨_, store, _, received⟩
    · refine .inl ?_
      simp only [after, received]
      exact still
    · -- After its last item a message is over.
      simp only [after, received, onContext, finishItem_eq, passed]
      split
      · exact .inr rfl
      · exact .inl still

end Round

namespace Call

/-- How a call that receives a request's message sees to it that nobody is left waiting. -/
def Fulfills (context : Context) : Call → Prop
  | .choose .receive | .enter .receive .message | .search .message _ | .await .message _
  | .absorb .message _ => context.receiving.active = true
  | .next => context.receiving.active = true ∨ context.signals.chunksReceived = true
  | .conclude .receive .message | .signal .receive .message =>
    context.signals.chunksReceived = true
  | .succeeded => context.signals.Ended
  | .halt _ | .close _ | .release _ | .failed _ => True
  | _ => False

variable [Transferable ι] [Reversible ι] [Depot δ ι]
variable {hooks : Hooks ι} {role : Role} {call onward : Call} {round after : Round ι}
  {depot store : δ} {deed : Option Deed}

/-- Once all chunks have been received, the hooks have run and the signal is set, nobody waits. -/
theorem Moves.fulfills (moves : Moves hooks role call round depot deed onward after store)
    (fulfills : call.Fulfills round.context) : onward.Fulfills after.context := by
  -- The call is followed from the choice of its phase to its signal.
  cases moves with
  | choose transit =>
    cases transit with
    | send => cases fulfills
    | receive =>
      have active : round.context.due .receive = true := fulfills
      rw [active]
      exact fulfills
  | enter transit phase =>
    cases transit <;> cases phase
    case receive.message => exact .inl fulfills
    all_goals cases fulfills
  | more _ due => exact due
  | complete _ idle =>
    rcases fulfills with active | chunks
    · rw [idle] at active
      cases active
    · exact chunks
  | find phase | starve phase | arrive phase =>
    cases phase with
    | header => cases fulfills
    | message => exact fulfills
  | fold inbound =>
    exact round.receiveMessage_promises depot role inbound.frame inbound.kind fulfills
  | conclude transit phase =>
    cases transit <;> cases phase
    case receive.message =>
      -- Even a halt by the hooks leaves the signals as they are.
      have signals := round.signals_hooked hooks role .receive .message
      simp only [Fulfills, signals]
      exact fulfills
    all_goals cases fulfills
  | signal transit phase =>
    cases transit <;> cases phase
    case receive.message => exact ⟨fulfills, rfl⟩
    all_goals cases fulfills
  | reject phase | starveOut phase => trivial
  | halt | close | release => trivial
  | _ => cases fulfills

end Call

namespace Plan

/-- How a server on its way through a request's message sees to it that nobody is left waiting. -/
inductive Fulfills (context : Context) : Plan → Prop
  | ifDue (promises : context.Promises) : Fulfills context .request
  | find (active : context.receiving.active = true) : Fulfills context [.find .receive]
  | call {call : Call} (fulfills : call.Fulfills context) : Fulfills context [.call call]
  | done (ended : context.signals.Ended) : Fulfills context []

/-- What is left of a response that still waits for its request. -/
inductive Waits : Plan → Prop
  | chunks : Waits (response false)
  | message : Waits (.await .messageReceived :: response true)

variable [Transferable ι] [Reversible ι] [Depot δ ι]
variable {hooks : Hooks ι} {role : Role} {plan onward : Plan} {round after : Round ι}
  {depot store : δ} {deed : Option Deed}

/-- Nobody is left waiting once that way has come to its end. -/
theorem Moves.fulfills (moves : Moves hooks role plan round depot deed onward after store)
    (fulfills : plan.Fulfills round.context) : onward.Fulfills after.context := by
  -- The request asks whether a message is due before it looks for one.
  cases fulfills with
  | ifDue promises =>
    cases moves with
    | proceed _ _ due => exact .find due
    | skip _ _ idle =>
      -- Without a message to receive, the promise is that nobody waits for one.
      rcases promises with active | ended
      · have idle : round.context.receiving.active = false := idle
        rw [active] at idle
        cases idle
      · exact .done ended
  | find active =>
    cases moves
    exact .call active
  | call fulfills =>
    cases moves with
    | call _ moves => exact .call (moves.fulfills fulfills)
    | succeed _ moves => exact .done (moves.fulfills fulfills)
  | done => cases moves

/-- A plan that waits for no signal does not come to wait for one. -/
theorem Moves.unawaited (moves : Moves hooks role plan round depot deed onward after store)
    (unawaited : ∀ signal, .await signal ∉ plan) (signal : Signal) : .await signal ∉ onward := by
  -- The tasks behind the first one wait for no signal either.
  have rest : ∀ {task : Task} {rest : Plan}, (∀ signal, .await signal ∉ task :: rest) →
      .await signal ∉ rest := fun none member => none signal (List.mem_cons_of_mem _ member)
  cases moves with
  | skip => exact fun member => rest unawaited (List.mem_of_mem_drop member)
  | find | call =>
    intro member
    rcases List.mem_cons.mp member with same | member
    · cases same
    · exact rest unawaited member
  | _ => exact rest unawaited

end Plan

/-- A message is to be received, or nobody waits for one, unless the response does not wait at all. -/
def Context.Frees (role : Role) (context : Context) : Prop :=
  context.Promises ∨ role.pipelines context.synchronic = true

/-- Within a round, no response waits for a request that is over. -/
inductive Service.Promised (role : Role) (context : Context) : Service → Prop
  | opens {service : Service} (opens : service.Opens context) : Promised role context service
  | fails {service : Service} (fails : service.Fails) : Promised role context service
  | signal (frees : context.Frees role) :
    Promised role context (.request [.call (.signal .receive .header)])
  | mode (frees : context.Frees role) : Promised role context .mode
  | waiting {incoming outgoing : Plan} (waits : outgoing.Waits)
      (fulfills : incoming.Fulfills context) : Promised role context (.halves incoming outgoing)
  | going {incoming outgoing : Plan} (unawaited : ∀ signal, .await signal ∉ outgoing) :
    Promised role context (.halves incoming outgoing)
  | report : Promised role context .report

/-- Two halves that are both over leave a round that is to be reported. -/
theorem Service.Promised.ofHalves {role : Role} {context : Context} {incoming outgoing : Plan}
    (promised : Promised role context (.halves incoming outgoing)) :
    Promised role context (.ofHalves incoming outgoing) := by
  -- Nothing is reported as long as a half has something left to do.
  unfold Service.ofHalves
  split
  · exact .report
  · exact promised

variable [Transferable ι] [Reversible ι] [Depot δ ι]

/-- Every step within a round keeps it so, unless the header's hooks halt a round that alternates. -/
theorem Stand.Moves.promised {hooks : Hooks ι} {role : Role} {before after : Stand δ ι}
    {deeds : List Deed} (moves : Stand.Moves hooks role before deeds after)
    (frees : ∀ round, .halt ∈ hooks.actions (.completed .receive .header) round →
      role.pipelines (round.hooked hooks role .receive .header).context.synchronic = true)
    (promised : before.service.Promised role before.round.context) :
    after.service.Promised role after.round.context := by
  -- The cases are the places at which a round can be.
  obtain ⟨service, round, depot⟩ := before
  simp only at promised
  cases promised with
  | opens opens =>
    rcases moves.opens opens with
      ⟨_, opens | fails⟩ | ⟨_, fallen⟩ | ⟨inbound, returned, _, _, _, rfl⟩
    · exact .opens opens
    · exact .fails fails
    · exact .fails (fallen ▸ .fallen)
    · have promises := Round.receiveHeader_promises returned
      simp only
      generalize round.receiveHeader depot role inbound.frame = received at promises ⊢
      by_cases halts : .halt ∈ hooks.actions (.completed .receive .header) received.1
      · exact .signal (.inr (frees received.1 halts))
      · -- Without a halt the hooks leave the message and the signals alone.
        have receiving := received.1.hooked_unhalted hooks role .receive .header halts
        have signals := received.1.signals_hooked hooks role .receive .header
        refine .signal (.inl ?_)
        simp only [Context.Promises, receiving, signals]
        exact promises
  | fails fails => exact .fails (moves.fails fails).2
  | signal frees =>
    obtain ⟨_, left | rfl⟩ := moves.greeted
    · exact left ▸ .fails .unregister
    · -- Raising one signal clears no other.
      rcases frees with (active | ⟨chunks, message⟩) | pipelined
      · exact .mode (.inl (.inl active))
      · exact .mode (.inl (.inr ⟨chunks, message⟩))
      · exact .mode (.inr pipelined)
  | mode frees =>
    obtain ⟨_, left | rfl⟩ := moves.parted
    · exact left ▸ .fails .unregister
    · rcases frees with promises | pipelined
      · simp only
        cases role.pipelines round.context.synchronic with
        | true => exact .going (by simp [Plan.response])
        | false => exact .waiting .chunks (.ifDue promises)
      · rw [pipelined]
        exact .going (by simp [Plan.response])
  | waiting waits fulfills =>
    cases moves with
    | quit => exact .fails .unregister
    | fallIncoming | fallOutgoing => exact .fails .fallen
    | incoming _ moves => exact .ofHalves (.waiting waits (moves.fulfills fulfills))
    | outgoing _ moves =>
      -- While it waits, a response does nothing but look at its signals.
      cases waits with
      | chunks =>
        cases moves
        exact .ofHalves (.waiting .message fulfills)
      | message =>
        cases moves
        exact .ofHalves (.going (by simp [Plan.response]))
  | going unawaited =>
    cases moves with
    | quit => exact .fails .unregister
    | fallIncoming | fallOutgoing => exact .fails .fallen
    | incoming => exact .ofHalves (.going unawaited)
    | outgoing _ moves => exact .ofHalves (.going (moves.unawaited unawaited))
  | report =>
    cases moves
    exact .fails .unregister

/--
No response is left waiting.

Hooks of a header may halt the round only if they leave its response free to overtake its request.
Then, whenever the request of a round is over while its response is to wait for a signal, that signal
is set: whatever the request was, however its frames arrived, and whatever else the hooks have done.
-/
theorem Server.response_released {server after : Server δ ι} {id : Nat} {deeds : List Deed}
    {link last : Link ι} {signal : Signal} {rest : Plan}
    (begins : server.At id (.request .greeting) link)
    (frees : ∀ round, .halt ∈ server.hooks.actions (.completed .receive .header) round →
      link.role.pipelines (round.hooked server.hooks link.role .receive .header).context.synchronic =
        true)
    (run : server.Serves id deeds after)
    (waits : after.At id (.halves [] (.await signal :: rest)) last) :
    last.round.context.signals.isSet signal = true := by
  -- The promise is kept along the run, up to where the response waits.
  obtain ⟨service, other, stands, _, _, promised⟩ := run.invariant
    (fun _ stand => stand.service.Promised link.role stand.round.context) begins
    (.opens .reset) fun _ _ _ _ promised moves => moves.promised frees promised
  cases Option.some.inj (waits.service.symm.trans stands.service)
  cases Option.some.inj (waits.link.symm.trans stands.link)
  -- The promise was either kept, or not needed.
  cases promised with
  | waiting awaited fulfills =>
    cases fulfills with
    | done ended =>
      obtain ⟨chunks, message⟩ := ended
      generalize same : Task.await signal :: rest = plan at awaited
      cases awaited with
      | chunks => cases same; exact chunks
      | message => cases same; exact message
  | going unawaited => exact absurd List.mem_cons_self (unawaited signal)
  | opens opens => cases opens
  | fails fails => cases fails

/-- A request of one item: once it has been received, its response is free to go. -/
theorem Server.response_released_once :
    let settings : Settings :=
      { headerCapacity := 200, messageCapacity := 40, batchSize := 2, runLength := 2 }
    let link : Link Parcel := .opened 1 .server 1 { id := "s" } settings
    let server : Server MemoryDepot Parcel := .ofLink .none { depot := {} } link
    ∃ deeds after last, server.Serves 1 deeds after ∧
      after.At 1 (.halves [] (.response false)) last ∧
      last.round.context.signals.isSet .chunksReceived = true := by
  -- The header arrives and then the chunk, while the response waits.
  intro settings link server
  let header : Header :=
    { identity := { id := "c" }, items := [⟨"a", 1, 1⟩], itemsCount := 1, synchronic := true }
  let cues := Cue.deliver 6 (Round.headerFrame settings header) ++
    Cue.deliver 10 (Round.chunkFrame settings ⟨[1], .final⟩) ++
      Cue.pass .receive 5
  have played : server.plays 1 cues (fun _ _ service _ => service = .halves [] (.response false)) =
      true := by decide +kernel
  obtain ⟨deeds, after, service, last, run, stands, reached⟩ := serves_of_plays played
  cases of_decide_eq_true reached
  have begins : server.At 1 (.request .greeting) link := at_ofLink _ _ link
  exact ⟨deeds, after, last, run, stands, response_released begins
    (fun _ halts => absurd halts List.not_mem_nil) run stands⟩

/--
A header hook that asks for alternation and halts the round: the request of one item is over before
any of its chunks, and the response is left waiting for a signal that nobody sets.
-/
theorem Server.response_unreleased :
    let settings : Settings :=
      { headerCapacity := 200, messageCapacity := 40, batchSize := 2, runLength := 2 }
    let hooks : Hooks Parcel :=
      { actions := fun event _ =>
          if event = .completed .receive .header then [.synchronic true, .halt] else [] }
    let link : Link Parcel := .opened 1 .server 1 { id := "s" } settings
    let server : Server MemoryDepot Parcel := .ofLink hooks { depot := {} } link
    server.At 1 (.request .greeting) link ∧
      ∃ deeds after last, server.Serves 1 deeds after ∧
        after.At 1 (.halves [] (.await .chunksReceived :: .await .messageReceived ::
          Plan.response true)) last ∧
        last.round.context.signals.isSet .chunksReceived = false := by
  -- The header arrives, and its hooks halt the round.
  intro settings hooks link server
  refine ⟨at_ofLink _ _ link, ?_⟩
  let header : Header :=
    { identity := { id := "c" }, items := [⟨"a", 1, 1⟩], itemsCount := 1 }
  let cues := Cue.deliver 6 (Round.headerFrame settings header) ++
    Cue.pass .receive 5
  have played : server.plays 1 cues (fun _ _ service last =>
      service = .halves [] (.response false) ∧
        last.round.context.signals.isSet .chunksReceived = false) = true := by decide +kernel
  obtain ⟨deeds, after, service, last, run, stands, reached⟩ := serves_of_plays played
  obtain ⟨rfl, clear⟩ := of_decide_eq_true reached
  exact ⟨deeds, after, last, run, stands, clear⟩

end SentinelRounds
