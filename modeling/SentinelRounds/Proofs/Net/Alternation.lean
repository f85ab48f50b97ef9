import SentinelRounds.Proofs.Net.Waiting
import SentinelRounds.Proofs.Net.Withholding

/-! Where a round asks for alternation, the response comes after the whole request. -/

namespace SentinelRounds

variable {δ ι : Type}

/-- Whether every frame that was taken had been taken before any frame went out. -/
def Deed.Ordered (deeds : List Deed) : Prop :=
  deeds.Pairwise fun earlier later => ∀ phase bytes other,
    earlier = .wrote phase bytes → later ≠ .took other

namespace Deed

/-- Where nothing goes out, nothing goes out too early. -/
theorem ordered_of_quiet {deeds : List Deed} (quiet : ∀ phase bytes, .wrote phase bytes ∉ deeds) :
    Ordered deeds :=
  List.pairwise_of_forall_mem_list fun _ member _ _ phase bytes _ same =>
    absurd (same ▸ member) (quiet phase bytes)

/-- Where nothing more is taken, everything has been taken in time. -/
theorem Ordered.append {deeds more : List Deed} (ordered : Ordered deeds)
    (untaken : ∀ phase, .took phase ∉ more) : Ordered (deeds ++ more) := by
  -- Only frames that are taken have to come before those that go out.
  refine List.pairwise_append.mpr ⟨ordered, ?_, ?_⟩
  · exact List.pairwise_of_forall_mem_list fun _ _ later member _ _ other _ same =>
      untaken other (same ▸ member)
  · exact fun _ _ later member _ _ other _ same => untaken other (same ▸ member)

end Deed

/-- A response that waits has no message to lose. -/
theorem Plan.Waits.losses_nil {plan : Plan} (waits : plan.Waits) (before after : Context) :
    plan.losses .send before after = [] := by
  -- A message is lost only by a half that has decided on it.
  refine if_neg fun lost => ?_
  obtain ⟨decided, _⟩ := lost
  cases waits <;> rcases decided with same | same <;> cases same

/-- How a round that asks for alternation stands, once it has taken a header that announces items. -/
inductive Stand.Alternates [Depot δ ι] (role : Role) (peer : Identity) (count : Nat) (start : δ) :
    List Deed → Stand δ ι → Prop
  | signal {done : List Deed} {round : Round ι} {depot : δ}
      (greets : round.Greets role peer count start depot)
      (synchronic : round.context.synchronic = true)
      (quiet : ∀ phase bytes, .wrote phase bytes ∉ done) :
    Alternates role peer count start done ⟨.request [.call (.signal .receive .header)], round, depot⟩
  | mode {done : List Deed} {round : Round ι} {depot : δ}
      (greets : round.Greets role peer count start depot)
      (synchronic : round.context.synchronic = true)
      (quiet : ∀ phase bytes, .wrote phase bytes ∉ done) :
    Alternates role peer count start done ⟨.mode, round, depot⟩
  | waiting {done : List Deed} {incoming outgoing : Plan} {round : Round ι} {depot : δ}
      (receives : incoming.Of .receive) (waits : outgoing.Waits)
      (withholds : incoming.Withholds role peer count start done round depot)
      (quiet : ∀ phase bytes, .wrote phase bytes ∉ done) :
    Alternates role peer count start done ⟨.halves incoming outgoing, round, depot⟩
  | going {done : List Deed} {incoming outgoing : Plan} {round : Round ι} {depot : δ}
      (sends : outgoing.Of .send) (spent : incoming.Spent round.context)
      (complete : round.context.errors = 0 →
        incoming = [] ∧ round.Heard role peer count start done depot)
      (ordered : Deed.Ordered done) :
    Alternates role peer count start done ⟨.halves incoming outgoing, round, depot⟩
  | gone {done : List Deed} {stand : Stand δ ι}
      (left : stand.service = .report ∨ stand.service = .unregister ∨ stand.service = .fallen)
      (ordered : Deed.Ordered done) :
    Alternates role peer count start done stand

/-- So far, every frame that was taken had been taken before any frame went out. -/
theorem Stand.Alternates.ordered [Depot δ ι] {role : Role} {peer : Identity} {count : Nat}
    {start : δ} {done : List Deed} {stand : Stand δ ι}
    (alternates : stand.Alternates role peer count start done) : Deed.Ordered done := by
  -- Until the response is on its way no frame has gone out.
  cases alternates with
  | signal _ _ quiet | mode _ _ quiet | waiting _ _ _ quiet => exact Deed.ordered_of_quiet quiet
  | going _ _ _ ordered | gone _ ordered => exact ordered

/-- A round may come to its end at any time. -/
theorem Stand.Alternates.leave [Depot δ ι] {role : Role} {peer : Identity} {count : Nat}
    {start : δ} {done : List Deed} {stand onward : Stand δ ι}
    (alternates : stand.Alternates role peer count start done)
    (left : onward.service = .report ∨ onward.service = .unregister ∨ onward.service = .fallen) :
    onward.Alternates role peer count start done :=
  .gone left alternates.ordered

/-- Two halves that are both over leave a round that is to be reported. -/
theorem Stand.Alternates.ofHalves [Depot δ ι] {role : Role} {peer : Identity} {count : Nat}
    {start depot : δ} {done : List Deed} {incoming outgoing : Plan} {round : Round ι}
    (alternates : Stand.Alternates role peer count start done
      ⟨.halves incoming outgoing, round, depot⟩) :
    Stand.Alternates role peer count start done ⟨.ofHalves incoming outgoing, round, depot⟩ := by
  -- Nothing is reported as long as a half has something left to do.
  unfold Service.ofHalves
  split
  · exact alternates.leave (.inl rfl)
  · exact alternates

section

variable [Transferable ι] [Reversible ι] [Depot δ ι]
variable {hooks : Hooks ι} {role : Role} {peer : Identity} {count : Nat} {start : δ}

/-- Where a step takes no frame, none is taken together with what it makes the other half lose. -/
theorem Plan.untaken_losses {deed : Option Deed} (untaken : ∀ phase, deed ≠ some (.took phase))
    (transit : Transit) (plan : Plan) (before after : Context) (phase : Phase) :
    .took phase ∉ deed.toList ++ plan.losses transit before after := by
  -- What a half loses is a message, and no frame.
  intro member
  rcases List.mem_append.mp member with member | lost
  · exact untaken phase (Option.mem_toList.mp member)
  · cases Plan.mem_losses lost

section

variable {incoming outgoing : Plan} {round : Round ι} {depot : δ} {after : Stand δ ι}
  {done more : List Deed}

/-- A response waits until it is told of the end of the message, and then all of it is merged. -/
theorem Stand.Moves.alternates_waiting
    (moves : Stand.Moves hooks role ⟨.halves incoming outgoing, round, depot⟩ more after)
    (receives : incoming.Of .receive) (waits : outgoing.Waits)
    (withholds : incoming.Withholds role peer count start done round depot)
    (quiet : ∀ phase bytes, .wrote phase bytes ∉ done) :
    after.Alternates role peer count start (done ++ more) := by
  -- The cases are the steps of either half.
  cases moves with
  | quit =>
    rw [List.append_nil]
    exact .gone (.inr (.inl rfl)) (Deed.ordered_of_quiet quiet)
  | fallIncoming _ falls =>
    -- Whatever the request does not return from, it has sent nothing.
    rw [waits.losses_nil, List.append_nil]
    refine .gone (.inr (.inr rfl)) (Deed.ordered_of_quiet fun phase bytes member => ?_)
    rcases List.mem_append.mp member with member | member
    · exact quiet phase bytes member
    · exact falls.receives receives phase bytes (Option.mem_toList.mp member)
  | fallOutgoing _ falls => cases waits <;> cases falls
  | incoming _ moves =>
    -- While the response waits, only the request gets on, and it sends nothing.
    rw [waits.losses_nil, List.append_nil]
    refine .ofHalves (.waiting (moves.of receives) waits (moves.withholds withholds)
      fun phase bytes member => ?_)
    rcases List.mem_append.mp member with member | member
    · exact quiet phase bytes member
    · exact (moves.receives receives).2 phase bytes (Option.mem_toList.mp member)
  | outgoing _ moves =>
    cases waits with
    | chunks =>
      cases moves
      rw [Plan.losses_same _ _ rfl, Option.toList_none, List.append_nil, List.append_nil]
      exact .ofHalves (.waiting receives .message withholds quiet)
    | message =>
      cases moves with
      | await _ _ told =>
        -- The response is told of the end of the message, so the request no longer withholds it.
        rw [Plan.losses_same _ _ rfl, Option.toList_none, List.append_nil, List.append_nil]
        obtain ⟨spent, complete⟩ := withholds.told told
        exact .ofHalves (.going (Plan.response_of true) spent complete (Deed.ordered_of_quiet quiet))

/-- Once the response is on its way, nothing more is taken, and what has been merged stays. -/
theorem Stand.Moves.alternates_going
    (moves : Stand.Moves hooks role ⟨.halves incoming outgoing, round, depot⟩ more after)
    (sends : outgoing.Of .send) (spent : incoming.Spent round.context)
    (complete : round.context.errors = 0 →
      incoming = [] ∧ round.Heard role peer count start done depot)
    (ordered : Deed.Ordered done) : after.Alternates role peer count start (done ++ more) := by
  -- The cases are the steps of either half.
  cases moves with
  | quit =>
    rw [List.append_nil]
    exact .gone (.inr (.inl rfl)) ordered
  | fallIncoming _ falls =>
    -- The request has nothing left that it may not return from but its way out.
    obtain rfl := falls.spent spent
    exact .gone (.inr (.inr rfl))
      (ordered.append (Plan.untaken_losses (fun _ same => by cases same) _ _ _ _))
  | fallOutgoing _ falls =>
    exact .gone (.inr (.inr rfl))
      (ordered.append (Plan.untaken_losses (falls.sends sends) _ _ _ _))
  | incoming _ moves =>
    obtain ⟨still, spared, _, untaken⟩ := moves.spent spent
    refine .ofHalves (.going sends still (fun sound => ?_)
      (ordered.append (Plan.untaken_losses untaken _ _ _ _)))
    -- A request that is complete has no step left to take.
    obtain ⟨rfl, _⟩ := complete (spared.errors ▸ sound)
    cases moves
  | outgoing _ moves =>
    -- What the response does spares all that has been received, and takes nothing.
    obtain ⟨spared, rfl, untaken⟩ := moves.sends sends
    refine .ofHalves (.going (moves.of sends) (spent.spared spared) (fun sound => ?_)
      (ordered.append (Plan.untaken_losses untaken _ _ _ _)))
    obtain ⟨done, filled, heard⟩ := complete (spared.errors ▸ sound)
    exact ⟨done, filled.spared spared, List.mem_append_left _ heard⟩

end

/-- Every step keeps the response behind the request. -/
theorem Stand.Moves.alternates {before after : Stand δ ι} {done more : List Deed}
    (moves : Stand.Moves hooks role before more after)
    (alternates : before.Alternates role peer count start done) :
    after.Alternates role peer count start (done ++ more) := by
  -- The cases are the places at which a round can be.
  obtain ⟨service, round, depot⟩ := before
  have left {onward : Stand δ ι}
      (left : onward.service = .report ∨ onward.service = .unregister ∨ onward.service = .fallen) :
      onward.Alternates role peer count start (done ++ []) := by
    rw [List.append_nil]
    exact alternates.leave left
  cases alternates with
  | signal greets synchronic quiet =>
    -- The signal is told, and then the round parts or goes on.
    obtain ⟨rfl, gone | rfl⟩ := moves.greeted
    · exact left (.inr (.inl gone))
    · rw [List.append_nil]
      refine .mode ⟨?_, greets.2⟩ synchronic quiet
      rcases greets.1 with fills | idle
      · exact fills.spared (round.spared_onContext role _ rfl rfl (.inl rfl))
      · exact .inr idle
  | mode greets synchronic quiet =>
    obtain ⟨rfl, gone | rfl⟩ := moves.parted
    · exact left (.inr (.inl gone))
    · -- A synchronic server does not pipeline, so it waits for the message.
      have waits : role.pipelines true = false := by cases role <;> rfl
      rw [List.append_nil, synchronic, waits]
      exact .waiting Plan.request_of .chunks (.ifDue greets) quiet
  | waiting receives waits withholds quiet =>
    -- A halved round has its two halves in turns.
    exact moves.alternates_waiting receives waits withholds quiet
  | going sends spent complete ordered =>
    exact moves.alternates_going sends spent complete ordered
  | gone gone =>
    -- After the round, nothing is sent.
    rcases gone with same | same | same <;>
      · simp only at same
        cases same
        cases moves
        exact left (.inr (.inl rfl))

end

/-- Once a header that announces items has been taken, a round that asks for alternation alternates. -/
theorem Stand.Moves.alternates_greeted [Transferable ι] [Reversible ι] [Depot δ ι]
    {hooks : Hooks ι} {role : Role} {round : Round ι} {depot : δ} {inbound : Round.Inbound}
    {more : List Deed} {after : Stand δ ι} (blank : round.context.Blank)
    (expects : (round.receiveHeader depot role inbound.frame).1.Expects role)
    (synchronic : ((round.receiveHeader depot role inbound.frame).1.hooked hooks role .receive
      .header).context.synchronic = true)
    (moves : Stand.Moves hooks role ⟨.request [.call (.absorb .header inbound)], round, depot⟩
      more after) :
    let received := round.receiveHeader depot role inbound.frame
    let header := received.1.incomingHeader role
    after.Alternates role header.identity header.items.length received.2 more := by
  -- The only frame in question is the header that is being taken.
  intro received header
  have nothing : Deed.Ordered [] := List.Pairwise.nil
  cases moves with
  | quit => exact .gone (.inr (.inl rfl)) nothing
  | fall falls =>
    -- Even then the header is the only frame.
    obtain ⟨_, moves⟩ := falls
    rcases moves.failed_cases with ⟨same, _⟩ | ⟨_, _, _, rfl, _⟩ | ⟨_, _, same, _⟩
    · cases same
    · exact .gone (.inr (.inr rfl)) (List.pairwise_singleton _ _)
    · cases same
  | request moves =>
    cases moves with
    | succeed _ moves => cases moves
    | call _ moves going =>
      cases moves with
      | lose => cases going
      | greet returned =>
        -- Nobody has been told of the end of a message, and the hooks tell nobody either.
        obtain ⟨fills, told⟩ := expects.fills returned
        refine .signal ⟨fills.spared (received.1.spared_hooked hooks role .receive .header), ?_⟩
          synchronic fun _ _ member => by cases List.mem_singleton.mp member
        rw [Round.signals_hooked, told, blank.signals]
        rfl

/--
Strict alternation.

A header is taken in a round that is not closing, it announces items, and the round is to alternate
once the hooks of the header have run. Then, however the two halves take their steps, no frame goes
out before the last one that is taken; and when the header of the response is about to be made, then
unless there has been a fault the request is over, all announced items have been merged one after
the other, none is left, and the hooks of the message have run.
-/
theorem Server.responds_afterwards [Transferable ι] [Reversible ι] [Depot δ ι]
    {server reading after : Server δ ι} {id : Nat} {before deeds : List Deed}
    {first link : Link ι} {inbound : Round.Inbound}
    (begins : server.At id (.request .greeting) first) (opening : server.Serves id before reading)
    (reads : reading.At id (.request [.call (.absorb .header inbound)]) link)
    (expects : (link.round.receiveHeader reading.site.depot link.role inbound.frame).1.Expects
      link.role)
    (synchronic : ((link.round.receiveHeader reading.site.depot link.role inbound.frame).1.hooked
      reading.hooks link.role .receive .header).context.synchronic = true)
    (run : reading.Serves id deeds after) :
    let received := link.round.receiveHeader reading.site.depot link.role inbound.frame
    let header := received.1.incomingHeader link.role
    Deed.Ordered deeds ∧ ∀ incoming rest last,
      after.At id (.halves incoming (.call (.compose .header) :: rest)) last →
      last.round.context.errors = 0 →
      incoming = [] ∧ last.round.context.receiving.left = 0 ∧ .hooked .receive .message ∈ deeds ∧
        (last.round.incoming link.role).items.length = header.items.length ∧
        Depot.Merges header.identity (last.round.incoming link.role).items received.2
          after.site.depot := by
  -- The run up to the header is quiet, and from there the invariant takes over.
  intro received header
  obtain ⟨blank, _, _⟩ := opening.blank begins reads
  let start : Stand δ ι :=
    ⟨.request [.call (.absorb .header inbound)], link.round, reading.site.depot⟩
  obtain ⟨service, other, stands, _, _, holds⟩ := run.invariant
    (fun done stand => (done = [] ∧ stand = start) ∨
      stand.Alternates link.role header.identity header.items.length received.2 done) reads
    -- The first move takes the header over, and each later one keeps the order.
    (.inl ⟨rfl, rfl⟩) fun done more before after holds moves => by
      rcases holds with ⟨rfl, rfl⟩ | alternates
      · exact .inr (moves.alternates_greeted blank expects synchronic)
      · exact .inr (moves.alternates alternates)
  refine ⟨?_, fun incoming rest last makes sound => ?_⟩
  · -- Frames went out in order at any time.
    rcases holds with ⟨rfl, _⟩ | alternates
    · exact List.Pairwise.nil
    · exact alternates.ordered
  · -- Where the message is concluded, nothing can have been withheld.
    cases Option.some.inj (makes.service.symm.trans stands.service)
    cases Option.some.inj (makes.link.symm.trans stands.link)
    rcases holds with ⟨_, same⟩ | alternates
    · have reads := congrArg Stand.service same
      cases reads
    · cases alternates with
      | waiting _ waits => cases waits
      | going _ _ complete =>
        obtain ⟨spent, filled, heard⟩ := complete sound
        exact ⟨spent, filled.left, heard, filled.length, filled.merges⟩
      | gone left => rcases left with same | same | same <;> cases same

/-- A request of one item, whose response is made once the item has been merged. -/
theorem Server.responds_afterwards_once :
    let settings : Settings :=
      { headerCapacity := 200, messageCapacity := 40, batchSize := 2, runLength := 2 }
    let link : Link Parcel := .opened 1 .server 1 { id := "s" } settings
    let server : Server MemoryDepot Parcel := .ofLink .none { depot := {} } link
    ∃ before reading deeds after last, server.Serves 1 before reading ∧
      reading.Serves 1 deeds after ∧ Deed.Ordered deeds ∧
      after.At 1 (.halves [] [.call (.compose .header), .ifDue .send, .find .send]) last ∧
      last.round.context.receiving.left = 0 ∧ .hooked .receive .message ∈ deeds ∧
      (last.round.incoming .server).items.length = 1 := by
  -- The header arrives and is taken, and then the chunk.
  intro settings link server
  let header : Header :=
    { identity := { id := "c" }, items := [⟨"a", 1, 1⟩], itemsCount := 1, synchronic := true }
  let inbound : Round.Inbound := ⟨settings.encoding.encode Header.schema header, .final⟩
  let arriving := Cue.deliver 6 (Round.headerFrame settings header) ++ Cue.pass .receive 1
  let rest := Cue.deliver 9 (Round.chunkFrame settings ⟨[1], .final⟩) ++ Cue.pass .receive 5 ++
    Cue.pass .send 5
  -- From where the header is taken, the round is followed on to the header of the response.
  let responds : List Deed → Server MemoryDepot Parcel → Service → Link Parcel → Bool :=
    fun _ _ service last =>
      service = .halves [] [.call (.compose .header), .ifDue .send, .find .send] ∧
        last.round.context.errors = 0
  let accepts : List Deed → Server MemoryDepot Parcel → Service → Link Parcel → Bool :=
    fun _ reading service link =>
      let received := (link.round.receiveHeader reading.site.depot link.role inbound.frame).1
      service = .request [.call (.absorb .header inbound)] ∧ link.role = .server ∧
        (received.context.denied = false ∧ received.context.errors = 0 ∧
          received.context.close = false ∧ received.incomingHeader link.role = header) ∧
        (received.hooked reading.hooks link.role .receive .header).context.synchronic = true ∧
        reading.plays 1 rest responds = true
  have begins : server.At 1 (.request .greeting) link := at_ofLink _ _ link
  have played : server.plays 1 arriving accepts = true := by decide +kernel
  obtain ⟨before, reading, service, taking, opening, reads, reached⟩ := serves_of_plays played
  obtain ⟨rfl, role, ⟨allowed, sound, staying, headed⟩, synchronic, continued⟩ :=
    of_decide_eq_true reached
  obtain ⟨deeds, after, service, last, run, makes, reached⟩ := serves_of_plays continued
  obtain ⟨rfl, faultless⟩ := of_decide_eq_true reached
  obtain ⟨ordered, complete⟩ := responds_afterwards begins opening reads
    ⟨allowed, sound, staying, headed ▸ List.cons_ne_nil _ _⟩ synchronic run
  obtain ⟨_, left, heard, length, _⟩ := complete _ _ last makes faultless
  rw [headed, role] at length
  exact ⟨before, reading, deeds, after, last, opening, run, ordered, makes, left, heard, length⟩

/--
A request of one item whose header closes the round as well: it is accepted without a fault, and the
response is made while its item is left, before any chunk of it is taken and any hooks run.
-/
theorem Server.responds_beforehand :
    let settings : Settings :=
      { headerCapacity := 200, messageCapacity := 40, batchSize := 2, runLength := 2 }
    let header : Header :=
      { identity := { id := "c" }, items := [⟨"a", 1, 1⟩], itemsCount := 1, synchronic := true
        close := true }
    let link : Link Parcel := .opened 1 .server 1 { id := "s" } settings
    let server : Server MemoryDepot Parcel := .ofLink .none { depot := {} } link
    server.At 1 (.request .greeting) link ∧ ∃ deeds after incoming last,
      server.Serves 1 deeds after ∧
      after.At 1 (.halves incoming [.call (.compose .header), .ifDue .send, .find .send]) last ∧
      last.round.requestHeader = header ∧ last.round.context.denied = false ∧
      last.round.context.errors = 0 ∧ last.round.context.synchronic = true ∧
      last.round.context.receiving.left = 1 ∧ deeds = [.took .header] ∧
      after.site.depot.get? "c" "a" = none := by
  -- The response goes ahead as soon as the header has been taken.
  intro settings header link server
  refine ⟨at_ofLink _ _ link, ?_⟩
  let cues := Cue.deliver 6 (Round.headerFrame settings header) ++ Cue.pass .receive 4 ++
    Cue.pass .send 5
  let responds : List Deed → Server MemoryDepot Parcel → Service → Link Parcel → Bool :=
    fun deeds after service last =>
      service = .halves .request [.call (.compose .header), .ifDue .send, .find .send] ∧
        last.round.requestHeader = header ∧ last.round.context.denied = false ∧
        last.round.context.errors = 0 ∧ last.round.context.synchronic = true ∧
        last.round.context.receiving.left = 1 ∧ deeds = [.took .header] ∧
        after.site.depot.get? "c" "a" = none
  have played : server.plays 1 cues responds = true := by decide +kernel
  obtain ⟨deeds, after, service, last, run, makes, reached⟩ := serves_of_plays played
  obtain ⟨rfl, found⟩ := of_decide_eq_true reached
  exact ⟨deeds, after, .request, last, run, makes, found⟩

end SentinelRounds
