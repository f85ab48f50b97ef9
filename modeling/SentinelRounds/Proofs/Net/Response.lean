import SentinelRounds.Proofs.Net.Headers
import SentinelRounds.Proofs.Round.Script

/-! What goes out in a round is a header, and behind it chunks of the items that it announces. -/

namespace SentinelRounds

variable {δ ι : Type}

namespace Deed

/-- The frame that has gone out, with its phase. -/
def sent? : Deed → Option (Phase × Bytes)
  | .wrote phase bytes => some (phase, bytes)
  | _ => none

/-- The frames that have gone out, in order. -/
def sent (deeds : List Deed) : List (Phase × Bytes) := deeds.filterMap sent?

/-- What goes out later comes after what has gone out before. -/
theorem sent_append (deeds more : List Deed) : sent (deeds ++ more) = sent deeds ++ sent more :=
  List.filterMap_append

/-- Every frame that has gone out is one of some phase. -/
theorem frames_eq (deeds : List Deed) : frames deeds = (sent deeds).map Prod.fst := by
  -- Both lists leave out the same deeds.
  rw [frames, sent, List.map_filterMap]
  refine congrFun (congrArg List.filterMap (funext fun deed => ?_)) deeds
  cases deed <;> rfl

/-- As long as no phase has had a frame, none has gone out. -/
theorem sent_eq_nil_iff {deeds : List Deed} : sent deeds = [] ↔ frames deeds = [] := by
  rw [frames_eq, List.map_eq_nil_iff]

end Deed

/-- The frame that a call has made and not sent yet. -/
def Call.pending : Call → List (Phase × Bytes)
  | .write phase bytes => [(phase, bytes)]
  | _ => []

/-- The frame that the call under way in a plan has made and not sent yet. -/
def Plan.pending : Plan → List (Phase × Bytes)
  | .call call :: _ => call.pending
  | _ => []

/-- The frame that a service has made and not sent yet. -/
def Service.pending : Service → List (Phase × Bytes)
  | .request plan => plan.pending
  | .halves _ outgoing => outgoing.pending
  | _ => []

/-- At most one frame has been made and not sent. -/
theorem Service.pending_cases (service : Service) :
    service.pending = [] ∨ ∃ frame, service.pending = [frame] := by
  -- Only the call under way can have made one.
  have ofPlan : ∀ plan : Plan, plan.pending = [] ∨ ∃ frame, plan.pending = [frame] := by
    intro plan
    rcases plan with _ | ⟨task, rest⟩
    · exact .inl rfl
    · cases task with
      | call call =>
        cases call with
        | write phase bytes => exact .inr ⟨_, rfl⟩
        | _ => exact .inl rfl
      | _ => exact .inl rfl
  cases service with
  | request plan => exact ofPlan plan
  | halves _ outgoing => exact ofPlan outgoing
  | _ => exact .inl rfl

/-- A frame that one half has made stays so when the halves go on or end. -/
theorem Service.pending_ofHalves (incoming outgoing : Plan) :
    (ofHalves incoming outgoing).pending = outgoing.pending := by
  -- Halves that are both over have made no frame.
  unfold ofHalves
  split
  · rename_i spent
    rw [spent.2]
    rfl
  · rfl

/-- Hooks that run once a message may be under way leave alone the items that are being sent. -/
def Hooks.SparesItems (hooks : Hooks ι) : Prop :=
  -- Those of a received header run before anything is announced.
  ∀ (transit : Transit) (phase : Phase) (round : Round ι), transit = .send ∨ phase = .message →
    round.context.sending.active = true →
      ∀ action ∈ hooks.actions (.completed transit phase) round, ¬ action.Replaces

/-- Hooks that do something only when a header has been received leave what is being sent alone. -/
theorem Hooks.SparesItems.ofGreeting (actions : List (Action ι)) : Hooks.SparesItems
    { actions := fun event _ => if event = .completed .receive .header then actions else [] } := by
  -- A header that is received is an event of its own.
  intro transit phase round later _ action member
  -- Every other event has no actions.
  have other : Event.completed transit phase ≠ .completed .receive .header := by
    intro same
    obtain ⟨rfl, rfl⟩ := Event.completed.inj same
    rcases later with same | same <;> cases same
  simp only [if_neg other] at member
  cases member

/--
A call that is in order: it makes a header only at first and chunks only behind one, and the header
of the other end comes before any message is due.
-/
def Call.Ready (context : Context) (frames : List (Phase × Bytes)) : Call → Prop
  | .compose .header => frames = []
  | .compose .message => frames ≠ []
  | .absorb .header _ | .conclude .receive .header => context.sending.active = false
  | _ => True

section

variable [Transferable ι] [Reversible ι] [Depot δ ι]
variable {hooks : Hooks ι} {role : Role} {settings : Settings} {frames : List (Phase × Bytes)}
  {round after : Round ι} {depot store : δ} {deed : Option Deed}

/-- Hooks keep to the script, unless they replace items that are being sent. -/
theorem Round.Scripted.hooked (scripted : round.Scripted role settings frames)
    (spares : hooks.SparesItems) (transit : Transit) (phase : Phase)
    (ready : Call.Ready round.context frames (.conclude transit phase)) :
    (round.hooked hooks role transit phase).Scripted role settings frames := by
  -- Before a header is due, there are no items to be spared.
  refine scripted.applyAll fun active => ?_
  cases transit <;> cases phase
  case receive.header => cases active.symm.trans ready
  all_goals exact spares _ _ round (by simp) active

/-- A call that makes its frames in order keeps to the script. -/
theorem Call.Moves.scripted {call onward : Call}
    (moves : Call.Moves hooks role call round depot deed onward after store)
    (spares : hooks.SparesItems) (ready : call.Ready round.context frames)
    (scripted : round.Scripted role settings (frames ++ call.pending)) :
    after.Scripted role settings (frames ++ Deed.sent deed.toList ++ onward.pending) := by
  -- Most steps make no frame and send none.
  have quiet {other : Round ι} (scripted : other.Scripted role settings (frames ++ [])) :
      other.Scripted role settings (frames ++ [] ++ []) := by
    rwa [List.append_nil]
  cases moves with
  | choose | more | complete | arrive | starveOut | finish | close => exact quiet scripted
  | enter transit phase => cases transit <;> cases phase <;> exact quiet scripted
  | find | starve | reject =>
    -- Looking at bytes changes nothing but the intake.
    exact quiet (scripted.ofContext _ rfl rfl (.inl rfl))
  | @greet inbound =>
    have idle := Round.idle_receiveHeader depot role inbound.frame ready
    have heard := scripted.receiveHeader depot inbound.frame
    exact quiet (heard.hooked spares .receive .header idle)
  | @lose inbound => exact quiet (scripted.receiveHeader depot inbound.frame)
  | fold inbound => exact quiet (scripted.receiveMessage depot inbound.frame inbound.kind)
  | @make phase _ after _ _ made due =>
    rw [show Call.pending _ = [] from rfl, List.append_nil] at scripted
    rw [show Deed.sent _ = [] from rfl, List.append_nil]
    cases phase with
    | header =>
      have first : frames = [] := ready
      subst first
      exact scripted.sendHeader made
    | message => exact scripted.sendMessage ready (due rfl) made
  | @spoil phase _ _ _ _ made | @perish phase _ _ _ _ made =>
    refine quiet ?_
    rw [show Call.pending _ = [] from rfl] at scripted
    cases phase with
    | header =>
      have first : frames = [] := ready
      subst first
      exact scripted.sendHeader_error made
    | message => exact scripted.sendMessage_error made
  | write phase bytes =>
    have last : (Call.written phase).pending = [] := by cases phase <;> rfl
    rw [last, List.append_nil]
    exact scripted
  | block phase bytes =>
    exact quiet (by rw [List.append_nil]; exact scripted.dropped)
  | conclude transit phase =>
    rw [show Call.pending _ = [] from rfl, List.append_nil] at scripted
    exact quiet (by rw [List.append_nil]; exact scripted.hooked spares transit phase ready)
  | signal | release => exact quiet (scripted.ofContext _ rfl rfl (.inl rfl))
  | halt => exact quiet (scripted.ofContext _ rfl rfl (.inr rfl))

end

/-- A call in its message phase is in order, behind a header if it sends. -/
theorem Call.ready_of_message {context : Context} {frames : List (Phase × Bytes)}
    {transit : Transit} {call : Call} (within : call.Of transit .message)
    (begun : transit = .send → frames ≠ []) : call.Ready context frames := by
  -- Making a frame is the only step that asks for anything.
  cases call with
  | compose phase =>
    obtain ⟨rfl, rfl⟩ := within
    exact begun rfl
  | absorb phase inbound =>
    obtain ⟨_, rfl⟩ := within
    trivial
  | conclude other phase =>
    obtain ⟨rfl, rfl⟩ := within
    cases other <;> trivial
  | _ => trivial

namespace Plan

/-- A plan is in order: only its first task can be a call, and that call is in order. -/
structure Ready (context : Context) (frames : List (Phase × Bytes)) (plan : Plan) : Prop where
  first : ∀ call, plan.head? = some (.call call) → call.Ready context frames
  later : ∀ call, .call call ∉ plan.tail

/-- A plan in which nothing has been called yet is in order. -/
theorem Ready.of_uncalled {context : Context} {frames : List (Phase × Bytes)} {plan : Plan}
    (uncalled : ∀ call, .call call ∉ plan) : plan.Ready context frames :=
  ⟨fun call first => absurd (List.mem_of_mem_head? first) (uncalled call),
    fun call later => uncalled call (List.mem_of_mem_tail later)⟩

/-- A plan in which nothing has been called yet has made no frame. -/
theorem pending_eq_nil {plan : Plan} (uncalled : ∀ call, .call call ∉ plan) :
    plan.pending = [] := by
  -- Only a call can have made a frame.
  cases plan with
  | nil => rfl
  | cons task rest =>
    cases task with
    | call call => exact absurd List.mem_cons_self (uncalled call)
    | _ => rfl

/-- On the way to the header of the other end, a plan is in order. -/
theorem ready_of_opens {context : Context} {plan : Plan}
    (opens : (Service.request plan).Opens context) : plan.Ready context [] := by
  -- Nothing has gone out yet, and nothing is being sent.
  cases opens with
  | absorb inbound blank =>
    -- This is the header that comes before any message is due.
    have idle : context.sending.active = false := congrArg Sending.active blank.sending
    refine ⟨fun call same => ?_, by simp⟩
    cases same
    exact idle
  | _ =>
    refine ⟨fun call same => ?_, by simp [greeting]⟩
    cases same <;> trivial

/-- After a failure, a plan is in order. -/
theorem ready_of_fails {context : Context} {plan : Plan} {frames : List (Phase × Bytes)}
    (fails : (Service.request plan).Fails) : plan.Ready context frames := by
  -- Nothing is made after a failure.
  cases fails <;>
    · refine ⟨fun call same => ?_, by simp⟩
      cases same
      trivial

/-- A response that does not lose its message is in order. -/
theorem Answers.ready {context : Context} {deeds : List Deed} {plan : Plan}
    (answers : plan.Answers context (Deed.frames deeds)) :
    plan.Ready context (Deed.sent deeds) := by
  -- Until the header is out, only the header can be made.
  cases answers with
  | waits waits => cases waits <;> exact .of_uncalled (by simp [response])
  | @header call leads =>
    refine ⟨fun other same => ?_, by simp⟩
    cases same
    cases call with
    | compose phase =>
      cases phase with
      | header => exact Deed.sent_eq_nil_iff.mpr leads
      -- A message is not due before its header.
      | message => cases leads
    | absorb => cases leads
    | conclude transit phase =>
      cases transit <;> cases phase
      case receive.header => cases leads
      all_goals trivial
    | _ => trivial
  | @message call follows =>
    refine ⟨fun other same => ?_, by simp⟩
    cases same
    -- Behind the header, the frame at hand is a chunk, or none.
    rcases follows with ⟨rfl, _⟩ | ⟨within, count, begun⟩
    · trivial
    · refine Call.ready_of_message within fun _ silent => ?_
      rw [Deed.sent_eq_nil_iff.mp silent] at begun
      cases begun
  | _ => exact .of_uncalled (by simp [response])

/-- A request that does not lose its message is in order, and makes no frame. -/
theorem Gathers.ready {context : Context} {plan : Plan} (gathers : plan.Gathers context)
    (frames : List (Phase × Bytes)) : plan.Ready context frames ∧ plan.pending = [] := by
  -- A request makes no frame, so it has none that could wait.
  cases gathers with
  | @call call gathers =>
    refine ⟨⟨fun other same => ?_, by simp⟩, ?_⟩
    · cases same
      rcases gathers with ⟨rfl, _⟩ | within
      · trivial
      · exact Call.ready_of_message within nofun
    · rcases gathers with ⟨rfl, _⟩ | within
      · rfl
      · cases call with
        | write => cases within.1
        | _ => rfl
  | _ => exact ⟨.of_uncalled (by simp [request]), rfl⟩

end Plan

section

variable [Transferable ι] [Reversible ι] [Depot δ ι]
variable {hooks : Hooks ι} {role : Role} {settings : Settings} {frames : List (Phase × Bytes)}
  {round after : Round ι} {depot store : δ} {deed : Option Deed}

/-- A plan that is in order keeps to the script. -/
theorem Plan.Moves.scripted {plan onward : Plan}
    (moves : Plan.Moves hooks role plan round depot deed onward after store)
    (spares : hooks.SparesItems) (ready : plan.Ready round.context frames)
    (scripted : round.Scripted role settings (frames ++ plan.pending)) :
    after.Scripted role settings (frames ++ Deed.sent deed.toList ++ onward.pending) := by
  -- A task that is no call leaves the round alone, and none of the others has made a frame.
  have same {rest : Plan} (later : ∀ call, .call call ∉ rest) {other : Round ι}
      (scripted : other.Scripted role settings (frames ++ [])) :
      other.Scripted role settings (frames ++ [] ++ rest.pending) := by
    rwa [List.append_nil, Plan.pending_eq_nil later]
  cases moves with
  | reset rest =>
    -- A reset drops the message, and says nothing.
    refine same ready.later (scripted.kept rfl scripted.output.symm fun active => ?_)
    cases active
  | begin | await | proceed => exact same ready.later scripted
  | skip rest =>
    exact same (fun call member => ready.later call (List.mem_of_mem_drop member)) scripted
  | find transit rest =>
    have none : ∀ call, .call call ∉ ([] : Plan) := fun _ => List.not_mem_nil
    exact same none scripted
  | call rest moves => exact moves.scripted spares (ready.first _ rfl) scripted
  | succeed rest moves =>
    -- Only a call that has made a frame extends the script.
    have none : onward.pending = [] := Plan.pending_eq_nil ready.later
    rw [none]
    exact moves.scripted spares (ready.first _ rfl) scripted

/-- A call that does not return has sent no frame in its last step. -/
theorem Plan.Falls.sent {plan : Plan}
    (falls : Plan.Falls hooks role plan round depot deed after store) :
    Deed.sent deed.toList = [] := by
  -- All it may have done is to take a header.
  obtain ⟨_, moves⟩ := falls
  rcases moves.failed_cases with ⟨_, rfl, _⟩ | ⟨_, _, _, rfl, _⟩ | ⟨_, _, _, rfl, _⟩ <;> rfl

end

/-- No frame goes out where a half loses its message. -/
theorem Plan.sent_losses (transit : Transit) (plan : Plan) (before after : Context) :
    Deed.sent (plan.losses transit before after) = [] := by
  -- A loss is at most one deed, and no frame.
  unfold losses
  split <;> rfl

/-- What has gone out in a round, as long as neither half has lost its message, is a script. -/
inductive Stand.Scripted [Transferable ι] (role : Role) (settings : Settings) :
    List Deed → Stand δ ι → Prop
  | start {round : Round ι} {depot : δ} (configured : round.context.settings = settings) :
    Scripted role settings [] ⟨.request .greeting, round, depot⟩
  | under {done : List Deed} {stand : Stand δ ι}
      (scripted : stand.round.Scripted role settings (Deed.sent done ++ stand.service.pending)) :
    Scripted role settings done stand
  | past {done : List Deed} {stand : Stand δ ι}
      (left : stand.service = .unregister ∨ stand.service = .fallen)
      (said : Deed.sent done = [] ∨
        ∃ (items : List ι) (reached : Nat), Round.Script settings items (Deed.sent done) reached) :
    Scripted role settings done stand

namespace Stand.Scripted

variable [Transferable ι] {role : Role} {settings : Settings} {done : List Deed}
  {stand : Stand δ ι}

/-- A frame that has been made and has not gone out does not matter. -/
theorem said (scripted : stand.Scripted role settings done) : Deed.sent done = [] ∨
    ∃ (items : List ι) (reached : Nat), Round.Script settings items (Deed.sent done) reached := by
  -- What has gone out is the script without the frame that has been made.
  cases scripted with
  | start => exact .inl rfl
  | past _ said => exact said
  | under scripted =>
    have sent : stand.round.Scripted role settings (Deed.sent done) := by
      rcases stand.service.pending_cases with none | ⟨frame, one⟩
      · rwa [none, List.append_nil] at scripted
      · rw [one] at scripted
        exact scripted.dropped
    rcases sent.said with silent | ⟨items, reached, script, _⟩
    · exact .inl silent
    · exact .inr ⟨items, reached, script⟩

/-- A service that leaves its round without a word has said what it has said. -/
theorem leave (scripted : stand.Scripted role settings done) {onward : Stand δ ι}
    (left : onward.service = .unregister ∨ onward.service = .fallen) :
    onward.Scripted role settings (done ++ []) := by
  -- A frame that has been made is lost.
  rw [List.append_nil]
  exact .past left scripted.said

end Stand.Scripted

/-- A service on its way to the header of the other end, or after a failure, is in order. -/
theorem Stand.Heads.ready {plan : Plan} {round : Round ι} {depot : δ} {done : List Deed}
    (heads : Stand.Heads done ⟨.request plan, round, depot⟩) :
    plan.Ready round.context (Deed.sent done) := by
  -- A request is in order at each of the three places.
  cases heads with
  | opens opens => exact Plan.ready_of_opens opens
  | signal =>
    refine ⟨fun call same => ?_, by simp⟩
    cases same
    trivial
  | gone left =>
    rcases left with reports | fails
    · cases reports
    · exact Plan.ready_of_fails fails

section

variable [Transferable ι] [Reversible ι] [Depot δ ι]
variable {hooks : Hooks ι} {role : Role} {settings : Settings}

/-- A step of a half keeps to the script, if both halves still have their messages. -/
theorem Stand.Moves.scripted_halves {incoming outgoing : Plan} {round : Round ι} {depot : δ}
    {after : Stand δ ι} {done more : List Deed}
    (moves : Stand.Moves hooks role ⟨.halves incoming outgoing, round, depot⟩ more after)
    (spares : hooks.SparesItems) (receives : incoming.Of .receive)
    (answers : outgoing.Answers round.context (Deed.frames done))
    (gathers : incoming.Gathers round.context)
    (scripted : round.Scripted role settings (Deed.sent done ++ outgoing.pending)) :
    after.Scripted role settings (done ++ more) := by
  -- A half that loses its message says nothing by that.
  have under : Stand.Scripted role settings done ⟨.halves incoming outgoing, round, depot⟩ :=
    .under scripted
  have losses (deed : Option Deed) (transit : Transit) (plan : Plan) (context : Context) :
      Deed.sent (done ++ (deed.toList ++ plan.losses transit round.context context)) =
        Deed.sent done ++ Deed.sent deed.toList := by
    rw [Deed.sent_append, Deed.sent_append, Plan.sent_losses, List.append_nil]
  cases moves with
  | quit => exact under.leave (.inl rfl)
  | fallIncoming _ falls | fallOutgoing _ falls =>
    refine .past (.inr rfl) ?_
    rw [losses, falls.sent, List.append_nil]
    exact under.said
  | incoming _ moves =>
    -- The request makes no frame, and the one that the response has made stays.
    obtain ⟨ready, unmade⟩ := gathers.ready (Deed.sent done ++ outgoing.pending)
    have kept := moves.scripted spares ready (by rwa [unmade, List.append_nil])
    obtain ⟨_, none⟩ := (moves.gathers gathers).1.ready []
    have silent := Deed.sent_eq_nil_iff.mpr (Deed.frames_toList (moves.receives receives).2)
    rw [none, silent, List.append_nil, List.append_nil] at kept
    refine .under ?_
    rw [losses, silent, List.append_nil, Service.pending_ofHalves]
    exact kept
  | outgoing _ moves =>
    refine .under ?_
    rw [losses, Service.pending_ofHalves]
    exact moves.scripted spares answers.ready scripted

/-- Every step of a round in which neither half has lost its message keeps to the script. -/
theorem Stand.Moves.scripted {before after : Stand δ ι} {done more : List Deed}
    (moves : Stand.Moves hooks role before more after) (spares : hooks.SparesItems)
    (heads : before.Heads done) (sends : .preempted .send ∉ done)
    (receives : .preempted .receive ∉ done) (scripted : before.Scripted role settings done) :
    after.Scripted role settings (done ++ more) := by
  -- The round has not begun, or it is under way, or it is over.
  obtain ⟨service, round, depot⟩ := before
  have said := scripted.said
  have quits {onward : Stand δ ι} (left : onward.service = .unregister) :
      onward.Scripted role settings (done ++ []) := scripted.leave (.inl left)
  cases scripted with
  | start configured =>
    cases moves with
    | request moves =>
      -- The reset empties the output.
      cases moves
      exact .under ⟨configured, rfl, .inl rfl⟩
    | fall falls => cases falls
    | quit => exact quits rfl
  | past left =>
    cases moves with
    | quit => exact quits rfl
    | _ => rcases left with same | same <;> cases same
  | under scripted =>
    cases service with
    | halves incoming outgoing =>
      cases heads with
      | halves ours _ answers gathers =>
        exact moves.scripted_halves spares ours (answers sends) (gathers receives).1 scripted
      | opens opens => cases opens
      | gone left => rcases left with reports | fails <;> contradiction
    | request plan =>
      cases moves with
      | request moves =>
        have kept := moves.scripted spares heads.ready scripted
        rw [← Deed.sent_append] at kept
        refine .under ?_
        simp only
        split
        · rename_i spent
          subst spent
          exact kept
        · exact kept
      | fall falls =>
        refine .past (.inr rfl) ?_
        rw [Deed.sent_append, falls.sent, List.append_nil]
        exact said
      | quit => exact quits rfl
    | mode =>
      cases moves with
      | mode =>
        -- A response begins with something other than a frame.
        have none : (Plan.response (role.pipelines round.context.synchronic)).pending = [] := by
          cases role.pipelines round.context.synchronic <;> rfl
        rw [List.append_nil]
        refine .under ?_
        rw [Service.pending, none]
        exact scripted
      | quit => exact quits rfl
    | _ =>
      cases moves
      exact quits rfl

/--
One header in each direction.

Whatever the faults and the hooks, and in whatever order the two halves of a round take their steps:
as long as the half that sends does not lose its message between deciding on it and choosing it, the
frames that go out are a header and then chunks; as long as the half that receives does not, at most
one frame is taken for a header; and as long as neither half does and the hooks do not replace items
that are being sent, the frames that go out are the header of some items and then chunks of those
items, in the order in which the header announces them.
-/
theorem Server.one_header {server after : Server δ ι} {id : Nat} {deeds : List Deed} {link : Link ι}
    (begins : server.At id (.request .greeting) link) (run : server.Serves id deeds after) :
    (.preempted .send ∉ deeds → Phase.InOrder (Deed.frames deeds)) ∧
      (.preempted .receive ∉ deeds → Deed.headers deeds ≤ 1) ∧
      (.preempted .send ∉ deeds → .preempted .receive ∉ deeds → server.hooks.SparesItems →
        Deed.sent deeds = [] ∨ ∃ (items : List ι) (reached : Nat),
          Round.Script link.round.context.settings items (Deed.sent deeds) reached) := by
  -- The order of the phases and the frames of the script are kept together.
  let holds (done : List Deed) (stand : Stand δ ι) : Prop := stand.Heads done ∧
    (.preempted .send ∉ done → .preempted .receive ∉ done → server.hooks.SparesItems →
      stand.Scripted link.role link.round.context.settings done)
  have kept : ∀ done more before after, holds done before →
      Stand.Moves server.hooks link.role before more after → holds (done ++ more) after := by
    rintro done more before after ⟨heads, scripted⟩ moves
    refine ⟨moves.heads heads, fun sends receives spares => ?_⟩
    -- What has not been lost by the end of a step had not been lost before it.
    have sends := fun lost => sends (List.mem_append_left more lost)
    have receives := fun lost => receives (List.mem_append_left more lost)
    exact moves.scripted spares heads sends receives (scripted sends receives spares)
  obtain ⟨service, other, stands, _, _, heads, scripted⟩ :=
    run.invariant holds begins ⟨.opens .reset, fun _ _ _ => .start rfl⟩ kept
  exact ⟨heads.inOrder, heads.atMost, fun sends receives spares =>
    (scripted sends receives spares).said⟩

end

/-- A round with an item in each direction: its response is a header and the item's one chunk. -/
theorem Server.one_header_each :
    let settings : Settings :=
      { headerCapacity := 200, messageCapacity := 40, batchSize := 2, runLength := 2 }
    let hooks : Hooks Parcel :=
      { actions := fun event _ =>
          if event = .completed .receive .header then [.items [⟨"b", [2]⟩]] else [] }
    let link : Link Parcel := .opened 1 .server 1 { id := "s" } settings
    let server : Server MemoryDepot Parcel := .ofLink hooks { depot := {} } link
    let response : Header :=
      { identity := { id := "s" }, items := [⟨"b", 1, 1⟩], itemsCount := 1, chunksCount := 1
        notice := some "Registered C (c)" }
    ∃ deeds after, server.Serves 1 deeds after ∧
      Deed.sent deeds = [(.header, Round.headerFrame settings response),
        (.message, Round.chunkFrame settings ⟨[2], .final⟩)] ∧
      Phase.InOrder (Deed.frames deeds) ∧ Deed.headers deeds ≤ 1 ∧
      ∃ (items : List Parcel) (reached : Nat),
        Round.Script settings items (Deed.sent deeds) reached := by
  -- The request arrives with its item, and the response goes out with its own.
  intro settings hooks link server response
  let header : Header :=
    { identity := { id := "c", name := "C" }, items := [⟨"a", 1, 1⟩], itemsCount := 1 }
  let cues := Cue.deliver 6 (Round.headerFrame settings header) ++ Cue.pass .receive 4 ++
    Cue.emit 4 ++ Cue.deliver 6 (Round.chunkFrame settings ⟨[1], .final⟩) ++
      Cue.pass .receive 5 ++ Cue.emit 7
  -- Both frames that go out are evaluated, and no half falls behind.
  have played : server.plays 1 cues (fun deeds _ _ _ =>
      .preempted .send ∉ deeds ∧ .preempted .receive ∉ deeds ∧
        Deed.sent deeds = [(.header, Round.headerFrame settings response),
          (.message, Round.chunkFrame settings ⟨[2], .final⟩)]) = true := by decide +kernel
  obtain ⟨deeds, after, service, last, run, _, reached⟩ := serves_of_plays played
  obtain ⟨sends, receives, sent⟩ := of_decide_eq_true reached
  -- The theorem says that these frames are the script of some items.
  obtain ⟨inOrder, atMost, scripted⟩ := one_header (at_ofLink _ _ link) run
  have spares : server.hooks.SparesItems := .ofGreeting _
  refine ⟨deeds, after, run, sent, inOrder sends, atMost receives, ?_⟩
  refine (scripted sends receives spares).resolve_left fun silent => ?_
  cases sent.symm.trans silent

/--
Message hooks that halt the round: they run after the response has decided on its message, and
before it has chosen its phase, so that it sends a second header instead.
-/
theorem Server.second_header :
    let settings : Settings :=
      { headerCapacity := 200, messageCapacity := 40, batchSize := 2, runLength := 2 }
    let hooks : Hooks Parcel :=
      { actions := fun event _ =>
          if event = .completed .receive .header then [.items [⟨"b", [2]⟩]]
          else if event = .completed .receive .message then [.halt]
          else [] }
    let link : Link Parcel := .opened 1 .server 1 { id := "s" } settings
    let server : Server MemoryDepot Parcel := .ofLink hooks { depot := {} } link
    server.At 1 (.request .greeting) link ∧
      ∃ deeds after, server.Serves 1 deeds after ∧ .preempted .send ∈ deeds ∧
        Deed.frames deeds = [.header, .header] := by
  -- The server is followed from the header of the request to the second header.
  intro settings hooks link server
  refine ⟨at_ofLink _ _ link, ?_⟩
  let header : Header :=
    { identity := { id := "c" }, items := [⟨"a", 1, 1⟩], itemsCount := 1 }
  -- The response decides on its message in the last of the steps that follow its header.
  let cues := Cue.deliver 6 (Round.headerFrame settings header) ++ Cue.pass .receive 4 ++
    Cue.emit 4 ++ Cue.pass .send 3 ++ Cue.deliver 6 (Round.chunkFrame settings ⟨[1], .final⟩) ++
      Cue.pass .receive 4 ++ Cue.emit 4
  have played : server.plays 1 cues (fun deeds _ _ _ =>
      .preempted .send ∈ deeds ∧ Deed.frames deeds = [.header, .header]) = true := by
    decide +kernel
  obtain ⟨deeds, after, service, last, run, _, reached⟩ := serves_of_plays played
  exact ⟨deeds, after, run, of_decide_eq_true reached⟩

end SentinelRounds
