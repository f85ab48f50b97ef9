import SentinelRounds.Proofs.Net.Opening
import SentinelRounds.Proofs.Net.Withholding

/-! The hooks of a request's message see all of its items, unless the response stops the round first. -/

namespace SentinelRounds

variable {δ ι : Type}

/-- Whether hooks stop some round at an event. -/
def Hooks.Halts (hooks : Hooks ι) (event : Event) : Prop :=
  ∃ round, .halt ∈ hooks.actions event round

/-- What the receiving of a message goes by is as before. -/
structure Round.Untouched (role : Role) (before after : Round ι) : Prop where
  spared : before.Spared role after
  receiving : after.context.receiving = before.context.receiving
  told : after.context.signals.messageReceived = before.context.signals.messageReceived

namespace Round.Untouched

variable {role : Role} {before after : Round ι}

/-- Doing nothing touches nothing. -/
theorem refl (round : Round ι) : Untouched role round round := ⟨.refl round, rfl, rfl⟩

/-- What has not changed on the incoming side is untouched. -/
theorem of_incomingSide (same : after.incomingSide role = before.incomingSide role) :
    before.Untouched role after := by
  -- The incoming side has all of it.
  have receiving := congrArg (fun round : Round ι => round.context.receiving) same
  have signals := congrArg (fun round : Round ι => round.context.signals.messageReceived) same
  cases role <;> exact ⟨.of_incomingSide same, receiving, signals⟩

/-- Making a frame does not touch what is being received. -/
theorem compose [Transferable ι] (role : Role) (phase : Phase) (round : Round ι) :
    round.Untouched role (round.compose role phase).2 := by
  -- Both kinds of frames are made on the outgoing side.
  cases phase with
  | header => exact .of_incomingSide ((outgoing_sendHeader role).apart round)
  | message => exact .of_incomingSide ((outgoing_sendMessage role).apart round)

/-- Hooks that do not stop a round do not touch what is being received. -/
theorem hooked [Reversible ι] {hooks : Hooks ι} (role : Role) {transit : Transit} {phase : Phase}
    (round : Round ι) (unhalted : ¬ hooks.Halts (.completed transit phase)) :
    round.Untouched role (round.hooked hooks role transit phase) :=
  ⟨round.spared_hooked .., round.hooked_unhalted _ _ _ _ fun halts => unhalted ⟨round, halts⟩,
    congrArg Signals.messageReceived (round.signals_hooked ..)⟩

/-- A signal that is not the message's own does not touch what is being received. -/
theorem raise (role : Role) (round : Round ι) {signal : Signal} (other : signal ≠ .messageReceived) :
    round.Untouched role (round.onContext fun context => context.raise signal) := by
  -- Signals are set apart from what is received.
  refine ⟨round.spared_onContext role _ rfl rfl (.inl rfl), rfl, ?_⟩
  cases signal with
  | messageReceived => exact absurd rfl other
  | _ => rfl

variable [Depot δ ι] {peer : Identity} {count : Nat} {start depot : δ} {done : List Deed}

/-- An untouched request withholds the end of its message as before, whatever else is done. -/
theorem callWithholds (same : before.Untouched role after) (more : List Deed) {call : Call}
    (withholds : call.Withholds role peer count start done before depot) :
    call.Withholds role peer count start (done ++ more) after depot := by
  -- Nothing that a call looks at has changed.
  obtain ⟨spared, receiving, told⟩ := same
  have awaits (awaits : before.Awaits role peer count start depot) :
      after.Awaits role peer count start depot :=
    ⟨awaits.1.uncut spared receiving, told.trans awaits.2⟩
  have silent (silent : before.Silent role peer count start depot) :
      after.Silent role peer count start depot :=
    ⟨silent.1.spared spared, told.trans silent.2⟩
  have errors := spared.errors
  -- Whatever the call is at, it looks at the same parts of the round as before.
  cases call with
  | next =>
    rcases withholds with still | ⟨idle, faulted | complete⟩
    · exact .inl (awaits still)
    · exact .inr ⟨spared.idle idle, .inl (errors ▸ faulted)⟩
    · exact .inr ⟨spared.idle idle, .inr (silent complete)⟩
  | choose transit =>
    cases transit with
    | send => cases withholds
    | receive => exact awaits withholds
  | enter transit phase =>
    cases transit <;> cases phase
    case receive.message => exact awaits withholds
    all_goals cases withholds
  | search phase | await phase | absorb phase =>
    cases phase with
    | header => cases withholds
    | message => exact awaits withholds
  | conclude transit phase =>
    cases transit <;> cases phase
    case receive.message =>
      rcases withholds with faulted | complete
      · exact .inl (errors ▸ faulted)
      · exact .inr (silent complete)
    all_goals cases withholds
  | signal transit phase =>
    cases transit <;> cases phase
    case receive.message =>
      rcases withholds with faulted | ⟨complete, heard⟩
      · exact .inl (errors ▸ faulted)
      · exact .inr ⟨silent complete, List.mem_append_left _ heard⟩
    all_goals cases withholds
  | succeeded =>
    rcases withholds with faulted | ⟨filled, heard⟩
    · exact .inl (errors ▸ faulted)
    · exact .inr ⟨filled.spared spared, List.mem_append_left _ heard⟩
  | halt | close | release =>
    rcases withholds with faulted | untold
    · exact .inl (errors ▸ faulted)
    · exact .inr (told.trans untold)
  | failed => trivial
  | _ => cases withholds

/-- So does the whole way through the message. -/
theorem withholds (same : before.Untouched role after) (more : List Deed) {plan : Plan}
    (withholds : plan.Withholds role peer count start done before depot) :
    plan.Withholds role peer count start (done ++ more) after depot := by
  -- The plan goes on with the same call or at the same task.
  cases withholds with
  | ifDue greets =>
    refine .ifDue ⟨?_, same.told.trans greets.2⟩
    rcases greets.1 with fills | idle
    · exact .inl (fills.uncut same.spared same.receiving)
    · exact .inr (same.spared.idle idle)
  | find awaits =>
    exact .find ⟨awaits.1.uncut same.spared same.receiving, same.told.trans awaits.2⟩
  | call withholds going => exact .call (same.callWithholds more withholds) going
  | done spent =>
    refine .done ?_
    rcases spent with faulted | ⟨filled, heard⟩ | untold
    · exact .inl (same.spared.errors ▸ faulted)
    · exact .inr (.inl ⟨filled.spared same.spared, List.mem_append_left _ heard⟩)
    · exact .inr (.inr (same.told.trans untold))

end Round.Untouched

namespace Plan

/-- Whether a half has failed and stopped the round, and is about to give up. -/
def Failing : Plan → Prop
  | .call (.close _) :: _ | .call (.release _) :: _ => True
  | _ => False

/-- Whether the half that sends has stopped the round: its hooks have, or it has failed. -/
def Stops (hooks : Hooks ι) (done : List Deed) (outgoing : Plan) : Prop :=
  (∃ phase, .hooked .send phase ∈ done ∧ hooks.Halts (.completed .send phase)) ∨ outgoing.Failing

/-- A round that the response has stopped stays so. -/
theorem Stops.mono {hooks : Hooks ι} {done : List Deed} {outgoing onward : Plan}
    (stops : outgoing.Stops hooks done) (more : List Deed)
    (failing : outgoing.Failing → onward.Failing) : onward.Stops hooks (done ++ more) := by
  -- What has been done stays done, and what fails goes on failing.
  rcases stops with ⟨phase, member, halts⟩ | failed
  · exact .inl ⟨phase, List.mem_append_left _ member, halts⟩
  · exact .inr (failing failed)

/-- How a request collects the items of its header, as long as nobody stops it. -/
inductive Collects [Depot δ ι] (role : Role) (done : List Deed) (round : Round ι) (depot : δ) :
    Plan → Prop
  | withholds {plan : Plan} {start : δ}
      (withholds : plan.Withholds role (round.incomingHeader role).identity
        (round.incomingHeader role).items.length start done round depot) :
    Collects role done round depot plan
  | skips (idle : round.context.receiving.active = false) : Collects role done round depot .request
  | ended : Collects role done round depot []

end Plan

/-- How a round stands on its way to the end of a request's message. -/
inductive Stand.Collects [Depot δ ι] (hooks : Hooks ι) (role : Role) :
    List Deed → Stand δ ι → Prop
  | opening {done : List Deed} {stand : Stand δ ι}
      (opens : stand.service.Opens stand.round.context ∨ stand.service.Fails) :
    Collects hooks role done stand
  | greeted {done : List Deed} {service : Service} {round : Round ι} {depot : δ}
      (reached : service = .request [.call (.signal .receive .header)] ∨ service = .mode)
      (greets : (∃ start, round.Greets role (round.incomingHeader role).identity
        (round.incomingHeader role).items.length start depot) ∨
          round.context.receiving.active = false) :
    Collects hooks role done ⟨service, round, depot⟩
  | halves {done : List Deed} {incoming outgoing : Plan} {round : Round ι} {depot : δ}
      (sends : outgoing.Of .send)
      (collects : incoming.Collects role done round depot ∨ outgoing.Stops hooks done) :
    Collects hooks role done ⟨.halves incoming outgoing, round, depot⟩
  | gone {done : List Deed} {stand : Stand δ ι}
      (left : stand.service = .report ∨ stand.service = .unregister ∨ stand.service = .fallen) :
    Collects hooks role done stand

/-- Two halves that are both over leave a round that is to be reported. -/
theorem Stand.Collects.ofHalves [Depot δ ι] {hooks : Hooks ι} {role : Role} {done : List Deed}
    {incoming outgoing : Plan} {round : Round ι} {depot : δ}
    (collects : Stand.Collects hooks role done ⟨.halves incoming outgoing, round, depot⟩) :
    Stand.Collects hooks role done ⟨.ofHalves incoming outgoing, round, depot⟩ := by
  -- Nothing is reported as long as a half has something left to do.
  unfold Service.ofHalves
  split
  · exact .gone (.inl rfl)
  · exact collects

section

variable [Transferable ι] [Reversible ι] [Depot δ ι]
variable {hooks : Hooks ι} {role : Role} {round after : Round ι} {depot store : δ}
  {deed : Option Deed}

/-- A call that sends does not touch what is being received, unless it stops the round. -/
theorem Call.Moves.untouched {call onward : Call} {phase : Phase}
    (moves : Call.Moves hooks role call round depot deed onward after store)
    (within : call.Of .send phase) (alive : ∀ fault, onward ≠ .failed fault) :
    round.Untouched role after ∨
      (deed = some (.hooked .send phase) ∧ hooks.Halts (.completed .send phase)) ∨
      ∃ fault, onward = .close fault := by
  -- A call that sends makes a frame, writes it, or runs its hooks.
  cases moves with
  | make _ made _ =>
    have same := Round.Untouched.compose role phase round
    obtain ⟨_, rfl⟩ := within
    rw [made] at same
    -- The bytes that are taken out of the round have nothing to do with receiving.
    exact .inl ⟨same.spared.trans (Round.spared_onContext role _ _ rfl rfl (.inl rfl)),
      same.receiving, same.told⟩
  | spoil _ made | perish _ made =>
    have same := Round.Untouched.compose role phase round
    obtain ⟨_, rfl⟩ := within
    rw [made] at same
    exact .inl same
  | conclude _ entered =>
    obtain ⟨rfl, rfl⟩ := within
    by_cases halts : hooks.Halts (.completed .send entered)
    · exact .inr (.inl ⟨rfl, halts⟩)
    · exact .inl (.hooked role round halts)
  | signal _ entered =>
    obtain ⟨rfl, rfl⟩ := within
    refine .inl (.raise role round ?_)
    cases entered <;> exact fun same => by cases same
  | halt fault => exact .inr (.inr ⟨fault, rfl⟩)
  | release fault => exact absurd rfl (alive fault)
  | enter | finish | write | block | close => exact .inl (.refl _)
  | more | complete | find | starve | reject | arrive | starveOut | greet | lose | fold =>
    cases within.1
  | choose => cases within

namespace Plan

variable {plan onward : Plan}

/-- The half that sends does not touch what is being received, unless it stops the round. -/
theorem Moves.untouched (moves : Plan.Moves hooks role plan round depot deed onward after store)
    (sends : plan.Of .send) :
    round.Untouched role after ∨
      (∃ phase, deed = some (.hooked .send phase) ∧ hooks.Halts (.completed .send phase)) ∨
      onward.Failing := by
  -- A half that sends neither resets the round nor begins it.
  cases moves with
  | reset | begin => exact absurd (sends _ List.mem_cons_self) id
  | await | proceed | skip | find => exact .inl (.refl _)
  | call _ moves going =>
    -- A call that goes on has not failed.
    rcases sends _ List.mem_cons_self with rfl | ⟨phase, within⟩
    · cases moves
      exact .inl (.refl _)
    · rcases moves.untouched within (fun _ same => by cases same; cases going) with
        same | halts | ⟨fault, rfl⟩
      · exact .inl same
      · exact .inr (.inl ⟨phase, halts⟩)
      · exact .inr (.inr trivial)
  | succeed _ moves =>
    -- A call that succeeds has no fault either.
    rcases sends _ List.mem_cons_self with rfl | ⟨phase, within⟩
    · cases moves
    · rcases moves.untouched within (fun fault same => by cases same) with
        same | halts | ⟨fault, same⟩
      · exact .inl same
      · exact .inr (.inl ⟨phase, halts⟩)
      · cases same

/-- A half that has failed goes on failing until it gives up. -/
theorem Moves.failing (moves : Plan.Moves hooks role plan round depot deed onward after store)
    (failing : plan.Failing) : onward.Failing := by
  -- After a failure a call only closes and lets go.
  cases moves with
  | call _ moves going =>
    cases moves with
    | close => trivial
    | release => cases going
    | _ => cases failing
  | succeed _ moves =>
    generalize ended : Call.succeeded = onward at moves
    cases moves with
    | close | release => cases ended
    | _ => cases failing
  | _ => cases failing

/-- While a request takes the items of a message, its header stays. -/
theorem Moves.incomingHeader {peer : Identity} {count : Nat} {start : δ} {done : List Deed}
    (moves : Plan.Moves hooks role plan round depot deed onward after store)
    (withholds : plan.Withholds role peer count start done round depot) :
    after.incomingHeader role = round.incomingHeader role := by
  -- Only a header that is taken would replace it.
  have kept : ∀ {call onward : Call}, call.Withholds role peer count start done round depot →
      Call.Moves hooks role call round depot deed onward after store →
      after.incomingHeader role = round.incomingHeader role := by
    intro call onward withholds moves
    cases moves with
    | greet | lose | make | spoil | perish => cases withholds
    | fold =>
      -- A chunk changes the message, the notice and the context.
      have folds := @Round.receiveMessage_keeps δ ι _ _
        (fun other => other.incomingHeader role = round.incomingHeader role) role
      refine folds (fun base grown same => ?_) (fun base same => ?_) (fun base same => ?_)
          (fun base fault same => ?_) rfl _ _ _ <;>
        · rw [← same]
          cases role <;> rfl
    | conclude => exact (round.spared_hooked ..).incomingHeader
    | _ => cases role <;> rfl
  cases withholds with
  | ifDue | find => cases moves <;> rfl
  | call withholds =>
    cases moves with
    | call _ moves => exact kept withholds moves
    | succeed _ moves => exact kept withholds moves
  | done => cases moves

/-- A step of the request keeps it collecting. -/
theorem Moves.collects {done : List Deed}
    (moves : Plan.Moves hooks role plan round depot deed onward after store)
    (collects : plan.Collects role done round depot) (more : List Deed) :
    onward.Collects role (done ++ (deed.toList ++ more)) after store := by
  -- A request withholds the end of its message, skips it, or has ended.
  cases collects with
  | withholds withholds =>
    -- What was withheld before is withheld after the move.
    have kept := moves.incomingHeader withholds
    have withheld := (Round.Untouched.refl after).withholds more (moves.withholds withholds)
    rw [← kept, List.append_assoc] at withheld
    exact .withholds withheld
  | skips idle =>
    generalize request : Plan.request = plan at moves
    cases moves with
    | proceed _ _ due =>
      -- The request waits for a message that is due, and none is.
      cases request
      have active : round.context.receiving.active = true := due
      rw [idle] at active
      cases active
    | skip =>
      cases request
      exact .ended
    | _ => cases request
  | ended => cases moves

/-- So does a step of the response, or it stops the round. -/
theorem Moves.collects_beside {done : List Deed} {incoming : Plan}
    (moves : Plan.Moves hooks role plan round depot deed onward after store)
    (sends : plan.Of .send) (collects : incoming.Collects role done round depot)
    (more : List Deed) :
    incoming.Collects role (done ++ (deed.toList ++ more)) after store ∨
      onward.Stops hooks (done ++ (deed.toList ++ more)) := by
  -- The response does not touch what the request looks at, or it stops the round.
  obtain ⟨spared, rfl, _⟩ := moves.sends sends
  rcases moves.untouched sends with same | ⟨phase, rfl, halts⟩ | failing
  · left
    cases collects with
    | withholds withholds =>
      rw [← same.spared.incomingHeader] at withholds
      exact .withholds (same.withholds _ withholds)
    | skips idle => exact .skips (spared.idle idle)
    | ended => exact .ended
  · exact .inr (.inl ⟨phase, by simp, halts⟩)
  · exact .inr (.inr failing)

end Plan

omit [Transferable ι] in
/-- The header of a request makes the round wait for its items, or for none. -/
theorem Round.greets_receiveHeader (blank : round.context.Blank) {frame : Bytes}
    (returned : round.fatality depot role frame = none) :
    let received := round.receiveHeader depot role frame
    let greeted := received.1.hooked hooks role .receive .header
    (∃ start, greeted.Greets role (greeted.incomingHeader role).identity
        (greeted.incomingHeader role).items.length start received.2) ∨
      greeted.context.receiving.active = false := by
  -- A header makes a message due, or it makes none due.
  intro received greeted
  have spared : received.1.Spared role greeted := received.1.spared_hooked ..
  by_cases active : received.1.context.receiving.active = true
  · obtain ⟨fills, told⟩ := (Expects.of_active returned blank.errors active).fills returned
    refine .inl ⟨received.2, ?_, ?_⟩
    · rw [spared.incomingHeader]
      exact fills.spared spared
    · rw [Round.signals_hooked, told, blank.signals]
      rfl
  · exact .inr (spared.idle (eq_false_of_ne_true active))

/-- Every step of a round keeps its request collecting. -/
theorem Stand.Moves.collects {before after : Stand δ ι} {done more : List Deed}
    (moves : Stand.Moves hooks role before more after)
    (collects : before.Collects hooks role done) : after.Collects hooks role (done ++ more) := by
  -- The cases are the places at which a round can be.
  cases collects with
  | opening opens =>
    rcases opens with opens | fails
    · rcases moves.opens opens with ⟨_, onward⟩ | ⟨_, fallen⟩ | ⟨_, returned, _, blank, _, rfl⟩
      · exact .opening onward
      · exact .gone (.inr (.inr fallen))
      · exact .greeted (.inl rfl) (Round.greets_receiveHeader blank returned)
    · exact .opening (.inr (moves.fails fails).2)
  | greeted reached greets =>
    rcases reached with rfl | rfl
    · obtain ⟨_, left | rfl⟩ := moves.greeted
      · exact .gone (.inr (.inl left))
      · refine .greeted (.inr rfl) ?_
        -- The signal of the header is not the one of the message.
        rename_i round _ _
        have raised : round.Untouched role (round.onContext fun context =>
            context.raise (.ofPhase .receive .header)) :=
          .raise role round fun same => by cases same
        rw [raised.spared.incomingHeader]
        rcases greets with ⟨start, fills | idle, untold⟩ | idle
        · exact .inl ⟨start, .inl (fills.uncut raised.spared rfl), untold⟩
        · exact .inr idle
        · exact .inr idle
    · obtain ⟨_, left | rfl⟩ := moves.parted
      · exact .gone (.inr (.inl left))
      · refine .halves (Plan.response_of _) ?_
        rcases greets with ⟨_, greets⟩ | idle
        · exact .inl (.withholds (.ifDue greets))
        · exact .inl (.skips idle)
  | halves sends collects =>
    cases moves with
    | quit => exact .gone (.inr (.inl rfl))
    | fallIncoming | fallOutgoing => exact .gone (.inr (.inr rfl))
    | incoming _ moves =>
      refine .ofHalves (.halves sends ?_)
      rcases collects with collects | stops
      · exact .inl (moves.collects collects _)
      · exact .inr (stops.mono _ id)
    | outgoing _ moves =>
      refine .ofHalves (.halves (moves.of sends) ?_)
      rcases collects with collects | stops
      · exact moves.collects_beside sends collects _
      · exact .inr (stops.mono _ moves.failing)
  | gone left =>
    obtain ⟨service, round, depot⟩ := before
    rcases left with same | same | same <;>
      · simp only at same
        cases same
        cases moves
        exact .gone (.inr (.inl rfl))

end

/--
Complete messages.

However the two halves of a round of a server take their steps, whatever the peer sends, and whatever
the depot and the hooks do: when the hooks of the request's message are about to run, no item is
left, and all that the header has announced have been merged for its sender, one after the other;
unless there has been a fault, or the response has stopped the round by its hooks or by failing.
-/
theorem Server.completes [Transferable ι] [Reversible ι] [Depot δ ι] {server after : Server δ ι}
    {id : Nat} {deeds : List Deed} {first last : Link ι} {rest outgoing : Plan}
    (begins : server.At id (.request .greeting) first) (run : server.Serves id deeds after)
    (concludes : after.At id (.halves (.call (.conclude .receive .message) :: rest) outgoing) last) :
    let header := last.round.incomingHeader last.role
    let items := (last.round.incoming last.role).items
    (last.round.context.receiving.left = 0 ∧ items.length = header.items.length ∧
        ∃ start, Depot.Merges header.identity items start after.site.depot) ∨
      last.round.context.errors ≠ 0 ∨ outgoing.Stops server.hooks deeds := by
  -- The invariant holds where the hooks are about to run, and there it says so.
  intro header items
  obtain ⟨service, other, stands, played, _, collects⟩ := run.invariant
    (fun done stand => stand.Collects server.hooks first.role done) begins (.opening (.inl .reset))
    fun done more before after collects moves => moves.collects collects
  cases Option.some.inj (concludes.service.symm.trans stands.service)
  cases Option.some.inj (concludes.link.symm.trans stands.link)
  rw [← played] at collects
  -- Nothing of a message is concluded outside of the halves.
  cases collects with
  | opening opens =>
    rcases opens with opens | fails
    · cases opens
    · cases fails
  | greeted reached => rcases reached with same | same <;> cases same
  | gone left => rcases left with same | same | same <;> cases same
  | halves _ collects =>
    rcases collects with collects | stops
    · -- The incoming half has come to the end of the message.
      generalize concluding : Task.call (.conclude .receive .message) :: rest = incoming at collects
      cases collects with
      | withholds withholds =>
        cases withholds with
        | call withholds =>
          cases concluding
          -- The end was withheld until all of it had come, unless a fault was noted.
          rcases withholds with faulted | ⟨filled, _⟩
          · exact .inr (.inl faulted)
          · exact .inl ⟨filled.left, filled.length, _, filled.merges⟩
        | _ => cases concluding
      | _ => cases concluding
    · exact .inr (.inr stops)

/-- A request of one item, which is complete when the hooks of its message are about to run. -/
theorem Server.completes_once :
    let settings : Settings :=
      { headerCapacity := 200, messageCapacity := 40, batchSize := 2, runLength := 2 }
    let link : Link Parcel := .opened 1 .server 1 { id := "s" } settings
    let server : Server MemoryDepot Parcel := .ofLink .none { depot := {} } link
    ∃ deeds after last, server.Serves 1 deeds after ∧
      after.At 1 (.halves [.call (.conclude .receive .message)] (.response true)) last ∧
      last.round.context.receiving.left = 0 ∧ (last.round.incoming .server).items.length = 1 := by
  -- The header arrives and is taken, and then the chunk, up to the hooks.
  intro settings link server
  let header : Header :=
    { identity := { id := "c" }, items := [⟨"a", 1, 1⟩], itemsCount := 1 }
  let cues := Cue.deliver 6 (Round.headerFrame settings header) ++ Cue.pass .receive 1 ++
    Cue.deliver 9 (Round.chunkFrame settings ⟨[1], .final⟩) ++ Cue.pass .receive 3
  let concludes : List Deed → Server MemoryDepot Parcel → Service → Link Parcel → Bool :=
    fun _ _ service last =>
      service = .halves [.call (.conclude .receive .message)] (.response true) ∧
        last.role = .server ∧ last.round.context.errors = 0 ∧
        (last.round.incomingHeader last.role).items.length = 1
  have played : server.plays 1 cues concludes = true := by decide +kernel
  obtain ⟨deeds, after, service, last, run, stands, reached⟩ := serves_of_plays played
  obtain ⟨rfl, role, sound, announced⟩ := of_decide_eq_true reached
  rcases completes (at_ofLink _ _ link) run stands with ⟨left, length, _⟩ | faulted | stops
  · rw [announced, role] at length
    exact ⟨deeds, after, last, run, stands, left, length⟩
  · exact absurd sound faulted
  · -- These hooks do nothing, and the response has not begun.
    rcases stops with ⟨_, _, _, halts⟩ | failed
    · cases halts
    · cases failed

/--
A request of two items that is stopped by the hooks of the response's header while it waits for its
chunks: once the first chunk is there, the hooks of the message run, although one item is left and
has not been merged.
-/
theorem Server.completes_too_early :
    let settings : Settings :=
      { headerCapacity := 200, messageCapacity := 40, batchSize := 2, runLength := 2 }
    let hooks : Hooks Parcel :=
      { actions := fun event _ => if event = .completed .send .header then [.halt] else [] }
    let link : Link Parcel := .opened 1 .server 1 { id := "s" } settings
    let server : Server MemoryDepot Parcel := .ofLink hooks { depot := {} } link
    server.At 1 (.request .greeting) link ∧ ∃ deeds about outgoing last after,
      server.Serves 1 deeds about ∧
      about.At 1 (.halves [.call (.conclude .receive .message)] outgoing) last ∧
      last.round.context.errors = 0 ∧ (last.round.incomingHeader .server).items.length = 2 ∧
      last.round.context.receiving.left = 1 ∧ about.site.depot.get? "c" "b" = none ∧
      about.Serves 1 [.hooked .receive .message] after := by
  -- The hooks halt the round once the header of the response has gone out.
  intro settings hooks link server
  refine ⟨at_ofLink _ _ link, ?_⟩
  let header : Header :=
    { identity := { id := "c" }, items := [⟨"a", 1, 1⟩, ⟨"b", 1, 1⟩], itemsCount := 2 }
  -- The request has chosen its message and waits for it; then the response sends its header.
  let cues := Cue.deliver 6 (Round.headerFrame settings header) ++ Cue.pass .receive 10 ++
    Cue.emit 4 ++ Cue.pass .send 1 ++
    [⟨.receive, .bytes (Round.chunkFrame settings ⟨[1], .final⟩)⟩] ++ Cue.pass .receive 3
  let outgoing : Plan := [.call (.signal .send .header), .ifDue .send, .find .send]
  let concludes : List Deed → Server MemoryDepot Parcel → Service → Link Parcel → Bool :=
    fun _ about service last =>
      service = .halves [.call (.conclude .receive .message)] outgoing ∧
        (last.round.context.errors = 0 ∧ (last.round.incomingHeader .server).items.length = 2 ∧
          last.round.context.receiving.left = 1 ∧ about.site.depot.get? "c" "b" = none) ∧
        about.plays 1 (Cue.pass .receive 1) (fun deeds _ _ _ => deeds = [.hooked .receive .message]) =
          true
  have played : server.plays 1 cues concludes = true := by decide +kernel
  obtain ⟨deeds, about, service, last, run, stands, reached⟩ := serves_of_plays played
  obtain ⟨rfl, ⟨sound, announced, left, unmerged⟩, continued⟩ := of_decide_eq_true reached
  obtain ⟨done, after, _, _, onward, _, hooked⟩ := serves_of_plays continued
  cases of_decide_eq_true hooked
  exact ⟨deeds, about, outgoing, last, after, run, stands, sound, announced, left, unmerged, onward⟩

end SentinelRounds
