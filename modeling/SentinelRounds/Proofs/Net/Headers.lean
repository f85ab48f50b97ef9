import SentinelRounds.Proofs.Net.Halves
import SentinelRounds.Proofs.Net.Waiting

/-! A round has one header in each direction, unless one half cuts off the message of the other. -/

namespace SentinelRounds

variable {δ ι : Type}

namespace Deed

/-- The phase of a frame that has gone out. -/
def written? : Deed → Option Phase
  | .wrote phase _ => some phase
  | _ => none

/-- The phases of the frames that have gone out, in order. -/
def frames (deeds : List Deed) : List Phase := deeds.filterMap written?

/-- What goes out later comes after what has gone out before. -/
theorem frames_append (deeds more : List Deed) :
    frames (deeds ++ more) = frames deeds ++ frames more := List.filterMap_append

/-- How often a frame has been taken for a header. -/
def headers (deeds : List Deed) : Nat := deeds.count (.took .header)

/-- Headers that are taken later add to those that have been taken before. -/
theorem headers_append (deeds more : List Deed) :
    headers (deeds ++ more) = headers deeds + headers more := List.count_append

/-- A step that sends no frame adds none. -/
theorem frames_toList {deed : Option Deed}
    (unwritten : ∀ phase bytes, deed ≠ some (.wrote phase bytes)) : frames deed.toList = [] := by
  -- The list has at most one deed.
  cases deed with
  | none => rfl
  | some deed =>
    cases deed with
    | wrote phase bytes => exact absurd rfl (unwritten phase bytes)
    | _ => rfl

/-- A step that takes no header adds none. -/
theorem headers_toList {deed : Option Deed} (untaken : deed ≠ some (.took .header)) :
    headers deed.toList = 0 := by
  -- The list has at most one deed.
  cases deed with
  | none => rfl
  | some deed =>
    exact List.count_eq_zero.mpr fun member =>
      untaken (congrArg some (List.mem_singleton.mp member).symm)

end Deed

/-- Whether the frames of a response are a header and some chunks, as far as they have gone out. -/
def Phase.InOrder (frames : List Phase) : Prop :=
  frames = [] ∨ ∃ count, frames = .header :: List.replicate count .message

/-- A header and some chunks are in order with one more chunk. -/
theorem Phase.chunk_append {frames : List Phase}
    (begun : ∃ count, frames = .header :: List.replicate count .message) :
    ∃ count, frames ++ [Phase.message] = .header :: List.replicate count .message := by
  -- One more chunk is counted.
  obtain ⟨count, rfl⟩ := begun
  exact ⟨count + 1, by rw [List.cons_append, List.replicate_succ']⟩

namespace Call

/-- How a call sends the header of a response, after some frames. -/
def Leads (context : Context) (frames : List Phase) : Call → Prop
  | .choose .send => context.sending.active = false ∧ frames = []
  | .enter .send .header | .compose .header | .write .header _ => frames = []
  | .conclude .send .header | .signal .send .header | .succeeded => frames = [.header]
  | .halt _ | .close _ | .release _ | .failed _ => frames = [] ∨ frames = [.header]
  | _ => False

/-- How a call sends the message of a response, after some frames. -/
def Follows (context : Context) (frames : List Phase) (call : Call) : Prop :=
  (call = .choose .send ∧ context.sending.active = true ∧ frames = [.header]) ∨
    (call.Of .send .message ∧ ∃ count, frames = .header :: List.replicate count .message)

/-- How a call receives the message of a request. -/
def Gathers (context : Context) (call : Call) : Prop :=
  (call = .choose .receive ∧ context.receiving.active = true) ∨ call.Of .receive .message

end Call

namespace Plan

/-- How a response stands after some frames. -/
inductive Answers (context : Context) (frames : List Phase) : Plan → Prop
  | waits {plan : Plan} (waits : plan.Waits) (idle : context.sending.active = false)
      (unsent : frames = []) : Answers context frames plan
  | start (idle : context.sending.active = false) (unsent : frames = []) :
    Answers context frames (response true)
  | header {call : Call} (leads : call.Leads context frames) :
    Answers context frames [.call call, .ifDue .send, .find .send]
  | ifDue (headed : frames = [.header]) : Answers context frames [.ifDue .send, .find .send]
  | find (active : context.sending.active = true) (headed : frames = [.header]) :
    Answers context frames [.find .send]
  | message {call : Call} (follows : call.Follows context frames) :
    Answers context frames [.call call]
  | done (whole : ∃ count, frames = .header :: List.replicate count .message) :
    Answers context frames []

/-- How a request stands once its header has been taken. -/
inductive Gathers (context : Context) : Plan → Prop
  | ifDue : Gathers context .request
  | find (active : context.receiving.active = true) : Gathers context [.find .receive]
  | call {call : Call} (gathers : call.Gathers context) : Gathers context [.call call]
  | done : Gathers context []

end Plan

section

variable [Transferable ι] [Reversible ι] [Depot δ ι]
variable {hooks : Hooks ι} {role : Role} {round after : Round ι} {depot store : δ}
  {deed : Option Deed} {frames : List Phase}

/-- A call that sends the header of a response sends no other frame. -/
theorem Call.Moves.leads {call onward : Call}
    (moves : Call.Moves hooks role call round depot deed onward after store)
    (leads : call.Leads round.context frames) :
    onward.Leads after.context (frames ++ Deed.frames deed.toList) := by
  -- The call is followed from the choice of its phase to its signal.
  cases moves with
  | choose transit =>
    cases transit with
    | receive => cases leads
    | send =>
      -- No message is due yet, so it is the header that is chosen.
      obtain ⟨idle, unsent⟩ := leads
      have chosen : round.context.due .send = false := idle
      rw [chosen]
      exact (List.append_nil frames).trans unsent
  | enter transit phase =>
    cases transit <;> cases phase
    case send.header => exact (List.append_nil frames).trans leads
    all_goals cases leads
  | @make phase =>
    cases phase with
    | header => exact (List.append_nil frames).trans leads
    | message => cases leads
  | @spoil phase | @perish phase =>
    cases phase with
    | header => exact .inl ((List.append_nil frames).trans leads)
    | message => cases leads
  | write phase =>
    cases phase with
    | header =>
      -- The header is the first frame that goes out.
      have unsent : frames = [] := leads
      rw [unsent]
      rfl
    | message => cases leads
  | block phase =>
    cases phase with
    | header => exact .inl ((List.append_nil frames).trans leads)
    | message => cases leads
  | conclude transit phase =>
    cases transit <;> cases phase
    case send.header => exact (List.append_nil frames).trans leads
    all_goals cases leads
  | signal transit phase =>
    cases transit <;> cases phase
    case send.header => exact (List.append_nil frames).trans leads
    all_goals cases leads
  | halt | close | release =>
    simpa [Leads, Deed.frames] using leads
  | find phase | starve phase | reject phase | arrive phase | starveOut phase =>
    cases phase <;> cases leads
  | _ => cases leads

/-- A call that sends the message of a response sends nothing but chunks. -/
theorem Call.Moves.follows {call onward : Call}
    (moves : Call.Moves hooks role call round depot deed onward after store)
    (follows : call.Follows round.context frames) :
    onward.Follows after.context (frames ++ Deed.frames deed.toList) := by
  -- The message is about to be chosen, or it has been.
  rcases follows with ⟨rfl, active, headed⟩ | ⟨within, begun⟩
  · cases moves
    -- The message is still due, so it is a message that is chosen.
    rw [show Context.due _ .send = true from active]
    exact .inr ⟨⟨rfl, rfl⟩, 0, (List.append_nil frames).trans headed⟩
  · refine .inr ⟨moves.of within, ?_⟩
    rcases moves.deed_of within with rfl | rfl | ⟨receives, _⟩ | ⟨_, _, rfl⟩
    · rw [show Deed.frames _ = [] from rfl, List.append_nil]
      exact begun
    · rw [show Deed.frames _ = [] from rfl, List.append_nil]
      exact begun
    · cases receives
    · exact Phase.chunk_append begun

/-- A call that receives the message of a request takes no header. -/
theorem Call.Moves.gathers {call onward : Call}
    (moves : Call.Moves hooks role call round depot deed onward after store)
    (gathers : call.Gathers round.context) :
    onward.Gathers after.context ∧ deed ≠ some (.took .header) := by
  -- The message is about to be chosen, or it has been.
  rcases gathers with ⟨rfl, active⟩ | within
  · cases moves
    rw [show Context.due _ .receive = true from active]
    exact ⟨.inr ⟨rfl, rfl⟩, fun same => by cases same⟩
  · refine ⟨.inr (moves.of within), ?_⟩
    rcases moves.deed_of within with rfl | rfl | ⟨_, rfl⟩ | ⟨_, _, rfl⟩ <;>
      exact fun same => by cases same

/-- A response sends its header and then its chunks, as long as it does not lose its message. -/
theorem Plan.Moves.answers {plan onward : Plan}
    (moves : Plan.Moves hooks role plan round depot deed onward after store)
    (answers : plan.Answers round.context frames) :
    onward.Answers after.context (frames ++ Deed.frames deed.toList) := by
  -- Where nothing goes out, the frames stay as they are.
  have quiet : frames ++ Deed.frames (Option.toList none) = frames := List.append_nil frames
  cases answers with
  | waits waits idle unsent =>
    cases waits <;> cases moves <;> rw [quiet]
    · exact .waits .message idle unsent
    · exact .start idle unsent
  | start idle unsent =>
    cases moves
    rw [quiet]
    exact .header ⟨idle, unsent⟩
  | header leads =>
    cases moves with
    | call _ moves => exact .header (moves.leads leads)
    | succeed _ moves => exact .ifDue (moves.leads leads)
  | ifDue headed =>
    cases moves with
    | proceed _ _ due =>
      -- From here on the response has decided on its message.
      rw [quiet]
      exact .find due headed
    | skip =>
      rw [quiet]
      exact .done ⟨0, headed⟩
  | find active headed =>
    cases moves
    rw [quiet]
    exact .message (.inl ⟨rfl, active, headed⟩)
  | message follows =>
    cases moves with
    | call _ moves => exact .message (moves.follows follows)
    | succeed _ moves =>
      rcases moves.follows follows with ⟨same, _⟩ | ⟨_, begun⟩
      · cases same
      · exact .done begun
  | done => cases moves

/-- A request takes no header any more, as long as it does not lose its message. -/
theorem Plan.Moves.gathers {plan onward : Plan}
    (moves : Plan.Moves hooks role plan round depot deed onward after store)
    (gathers : plan.Gathers round.context) :
    onward.Gathers after.context ∧ deed ≠ some (.took .header) := by
  -- The request asks whether a message is due before it looks for one.
  cases gathers with
  | ifDue =>
    cases moves with
    | proceed _ _ due => exact ⟨.find due, fun same => by cases same⟩
    | skip => exact ⟨.done, fun same => by cases same⟩
  | find active =>
    cases moves
    exact ⟨.call (.inl ⟨rfl, active⟩), fun same => by cases same⟩
  | call gathers =>
    cases moves with
    | call _ moves =>
      obtain ⟨still, untaken⟩ := moves.gathers gathers
      exact ⟨.call still, untaken⟩
    | succeed _ moves => exact ⟨.done, (moves.gathers gathers).2⟩
  | done => cases moves

end

/-- A response that has decided on its message still has it, unless it has lost it. -/
theorem Plan.unlost_send {plan : Plan} {before after : Context} (decided : plan.Decided .send)
    (active : before.sending.active = true)
    (unlost : .preempted .send ∉ plan.losses .send before after) : after.sending.active = true :=
  @due_of_unlost .send plan before after decided active unlost

/-- A request that has decided on its message still has it, unless it has lost it. -/
theorem Plan.unlost_receive {plan : Plan} {before after : Context} (decided : plan.Decided .receive)
    (active : before.receiving.active = true)
    (unlost : .preempted .receive ∉ plan.losses .receive before after) :
    after.receiving.active = true :=
  @due_of_unlost .receive plan before after decided active unlost

/-- A call that sends the header of a response stands as it did after a step of the request. -/
theorem Call.Leads.kept {before after : Context} {frames : List Phase} {call : Call}
    (leads : call.Leads before frames)
    (idle : before.sending.active = false → after.sending.active = false) :
    call.Leads after frames := by
  -- A call that sends the header looks at nothing that the request changes.
  cases call with
  | choose transit =>
    cases transit with
    | send => exact ⟨idle leads.1, leads.2⟩
    | receive => cases leads
  | enter transit phase | conclude transit phase | signal transit phase =>
    cases transit <;> cases phase <;> exact leads
  | compose phase | write phase => cases phase <;> exact leads
  | _ => exact leads

/-- A response stands as it did after a step of the request, unless it has lost its message. -/
theorem Plan.Answers.kept {before after : Context} {frames : List Phase} {plan : Plan}
    (answers : plan.Answers before frames)
    (idle : before.sending.active = false → after.sending.active = false)
    (unlost : .preempted .send ∉ plan.losses .send before after) : plan.Answers after frames := by
  -- Only a response that has decided on its message could lose it.
  cases answers with
  | waits waits silent unsent => exact .waits waits (idle silent) unsent
  | start silent unsent => exact .start (idle silent) unsent
  | header leads => exact .header (leads.kept idle)
  | ifDue headed => exact .ifDue headed
  | find active headed => exact .find (Plan.unlost_send (.inl rfl) active unlost) headed
  | message follows =>
    refine .message ?_
    rcases follows with ⟨rfl, active, headed⟩ | within
    · exact .inl ⟨rfl, Plan.unlost_send (.inr rfl) active unlost, headed⟩
    · exact .inr within
  | done whole => exact .done whole

/-- A request stands as it did after a step of the response, unless it has lost its message. -/
theorem Plan.Gathers.kept {before after : Context} {plan : Plan} (gathers : plan.Gathers before)
    (unlost : .preempted .receive ∉ plan.losses .receive before after) : plan.Gathers after := by
  -- Only a request that has decided on its message could lose it.
  cases gathers with
  | ifDue => exact .ifDue
  | find active => exact .find (Plan.unlost_receive (.inl rfl) active unlost)
  | call gathers =>
    refine .call ?_
    rcases gathers with ⟨rfl, active⟩ | within
    · exact .inl ⟨rfl, Plan.unlost_receive (.inr rfl) active unlost⟩
    · exact .inr within
  | done => exact .done

/-- As long as the header of a response is sent, nothing or the header has gone out. -/
theorem Call.Leads.inOrder {context : Context} {frames : List Phase} {call : Call}
    (leads : call.Leads context frames) : Phase.InOrder frames := by
  -- The header goes out in one of the steps, and before it nothing.
  have headed : frames = [.header] → Phase.InOrder frames := fun headed => .inr ⟨0, headed⟩
  cases call with
  | choose transit =>
    cases transit with
    -- Before its header, the sender has sent nothing.
    | send => exact .inl leads.2
    | receive => cases leads
  | enter transit phase =>
    cases transit <;> cases phase
    -- Entering a frame says nothing either.
    case send.header => exact .inl leads
    all_goals cases leads
  | compose phase | write phase =>
    cases phase with
    | header => exact .inl leads
    | message => cases leads
  | conclude transit phase | signal transit phase =>
    cases transit <;> cases phase
    -- The header is out once its call concludes.
    case send.header => exact headed leads
    all_goals cases leads
  | succeeded => exact headed leads
  -- A call that ends early may have sent the header, or nothing.
  | halt | close | release | failed => exact leads.elim .inl headed
  | _ => cases leads

/-- The frames of a response are in order wherever it stands. -/
theorem Plan.Answers.inOrder {context : Context} {frames : List Phase} {plan : Plan}
    (answers : plan.Answers context frames) : Phase.InOrder frames := by
  -- Before the message there is at most the header.
  cases answers with
  | waits _ _ unsent | start _ unsent => exact .inl unsent
  | header leads => exact leads.inOrder
  | ifDue headed | find _ headed => exact .inr ⟨0, headed⟩
  | message follows =>
    rcases follows with ⟨_, _, headed⟩ | ⟨_, begun⟩
    · exact .inr ⟨0, headed⟩
    · exact .inr begun
  | done whole => exact .inr whole

/-- How a round stands, in each direction as long as its half has not lost its message. -/
inductive Stand.Heads : List Deed → Stand δ ι → Prop
  | opens {stand : Stand δ ι} (opens : stand.service.Opens stand.round.context) : Heads [] stand
  | signal {done : List Deed} {round : Round ι} {depot : δ}
      (idle : round.context.sending.active = false) (unsent : Deed.frames done = [])
      (once : Deed.headers done = 1) :
    Heads done ⟨.request [.call (.signal .receive .header)], round, depot⟩
  | mode {done : List Deed} {round : Round ι} {depot : δ}
      (idle : round.context.sending.active = false) (unsent : Deed.frames done = [])
      (once : Deed.headers done = 1) : Heads done ⟨.mode, round, depot⟩
  | halves {done : List Deed} {incoming outgoing : Plan} {round : Round ι} {depot : δ}
      (receives : incoming.Of .receive) (sends : outgoing.Of .send)
      (answers : .preempted .send ∉ done →
        outgoing.Answers round.context (Deed.frames done))
      (gathers : .preempted .receive ∉ done →
        incoming.Gathers round.context ∧ Deed.headers done = 1) :
    Heads done ⟨.halves incoming outgoing, round, depot⟩
  | gone {done : List Deed} {stand : Stand δ ι}
      (left : stand.service = .report ∨ stand.service.Fails)
      (inOrder : .preempted .send ∉ done → Phase.InOrder (Deed.frames done))
      (atMost : .preempted .receive ∉ done → Deed.headers done ≤ 1) : Heads done stand

namespace Stand.Heads

variable {done : List Deed} {stand : Stand δ ι}

/-- The frames of a response that has not lost its message are in order. -/
theorem inOrder (heads : stand.Heads done) (unlost : .preempted .send ∉ done) :
    Phase.InOrder (Deed.frames done) := by
  -- Until the halves begin no frame has gone out.
  cases heads with
  | opens => exact .inl rfl
  | signal _ unsent | mode _ unsent => exact .inl unsent
  | halves _ _ answers => exact (answers unlost).inOrder
  | gone _ inOrder => exact inOrder unlost

/-- A request that has not lost its message has taken at most one frame for a header. -/
theorem atMost (heads : stand.Heads done) (unlost : .preempted .receive ∉ done) :
    Deed.headers done ≤ 1 := by
  -- Until the halves begin at most one frame has been taken.
  cases heads with
  | opens => exact Nat.zero_le _
  | signal _ _ once | mode _ _ once => exact Nat.le_of_eq once
  | halves _ _ _ gathers => exact Nat.le_of_eq (gathers unlost).2
  | gone _ _ atMost => exact atMost unlost

/-- A service that leaves its round for nothing but a report or its end leaves it as it is. -/
theorem leave (heads : stand.Heads done) {onward : Stand δ ι}
    (left : onward.service = .report ∨ onward.service.Fails) : onward.Heads done :=
  .gone left heads.inOrder heads.atMost

/-- Two halves that are both over leave a round that is to be reported. -/
theorem ofHalves {incoming outgoing : Plan} {round : Round ι} {depot : δ}
    (heads : Heads done ⟨.halves incoming outgoing, round, depot⟩) :
    Heads done ⟨.ofHalves incoming outgoing, round, depot⟩ := by
  -- Nothing is reported as long as a half has something left to do.
  unfold Service.ofHalves
  split
  · exact heads.leave (.inl rfl)
  · exact heads

end Stand.Heads

/-- No frame goes out where a half loses its message. -/
theorem Plan.frames_losses (transit : Transit) (plan : Plan) (before after : Context) :
    Deed.frames (plan.losses transit before after) = [] := by
  -- A loss is at most one deed, and no frame.
  unfold losses
  split <;> rfl

/-- No frame is taken for a header where a half loses its message. -/
theorem Plan.headers_losses (transit : Transit) (plan : Plan) (before after : Context) :
    Deed.headers (plan.losses transit before after) = 0 := by
  -- A loss is at most one deed, and no frame.
  unfold losses
  split <;> rfl

section

variable [Transferable ι] [Reversible ι] [Depot δ ι]
variable {hooks : Hooks ι} {role : Role}

/--
Each half keeps its own frames in order, and the other's as long as that does not lose its message.
-/
theorem Stand.Moves.heads_halves {incoming outgoing : Plan} {round : Round ι} {depot : δ}
    {after : Stand δ ι} {done more : List Deed}
    (moves : Stand.Moves hooks role ⟨.halves incoming outgoing, round, depot⟩ more after)
    (receives : incoming.Of .receive) (sends : outgoing.Of .send)
    (answers : .preempted .send ∉ done → outgoing.Answers round.context (Deed.frames done))
    (gathers : .preempted .receive ∉ done →
      incoming.Gathers round.context ∧ Deed.headers done = 1) : after.Heads (done ++ more) := by
  -- The cases are the steps of either half.
  cases moves with
  | quit =>
    have heads : Stand.Heads done ⟨.halves incoming outgoing, round, depot⟩ :=
      .halves receives sends answers gathers
    rw [List.append_nil]
    exact heads.leave (.inr .unregister)
  | fallIncoming _ falls =>
    -- A call that does not return is in one of the phases in which it might have gone on.
    obtain ⟨_, moves⟩ := falls
    refine .gone (.inr .fallen) (fun unlost => ?_) fun unlost => ?_
    · simp only [List.mem_append, not_or] at unlost
      rw [Deed.frames_append, Deed.frames_append,
        Deed.frames_toList ((Plan.Falls.call _ moves).receives receives), Plan.frames_losses,
        List.append_nil, List.append_nil]
      exact (answers unlost.1).inOrder
    · obtain ⟨held, once⟩ := gathers fun lost => unlost (List.mem_append_left _ lost)
      rcases held with _ | _ | within
      rw [Deed.headers_append, Deed.headers_append,
        Deed.headers_toList (moves.gathers within).2, Plan.headers_losses]
      exact Nat.le_of_eq once
  | fallOutgoing _ falls =>
    obtain ⟨_, moves⟩ := falls
    have untaken := (Plan.Falls.call _ moves).sends sends
    refine .gone (.inr .fallen) (fun unlost => ?_) fun unlost => ?_
    · rw [Deed.frames_append, Deed.frames_append, Plan.frames_losses, List.append_nil]
      cases answers fun lost => unlost (List.mem_append_left _ lost) with
      | waits waits => cases waits
      | header leads => exact (moves.leads leads).inOrder
      | message follows =>
        rcases moves.follows follows with ⟨same, _⟩ | ⟨_, begun⟩
        · cases same
        · exact .inr begun
    · simp only [List.mem_append, not_or] at unlost
      rw [Deed.headers_append, Deed.headers_append, Deed.headers_toList (untaken .header),
        Plan.headers_losses]
      exact Nat.le_of_eq (gathers unlost.1).2
  | incoming _ moves =>
    -- The request sends nothing, and all it can do to the response is to end its message.
    obtain ⟨idle, unwritten⟩ := moves.receives receives
    refine .ofHalves (.halves (moves.of receives) sends (fun unlost => ?_) fun unlost => ?_)
    · simp only [List.mem_append, not_or] at unlost
      rw [Deed.frames_append, Deed.frames_append, Deed.frames_toList unwritten,
        Plan.frames_losses, List.append_nil, List.append_nil]
      exact (answers unlost.1).kept idle unlost.2.2
    · obtain ⟨gathers, once⟩ := gathers fun lost => unlost (List.mem_append_left _ lost)
      obtain ⟨still, untaken⟩ := moves.gathers gathers
      rw [Deed.headers_append, Deed.headers_append, Deed.headers_toList untaken,
        Plan.headers_losses]
      exact ⟨still, once⟩
  | outgoing _ moves =>
    -- The response takes nothing, and all it can do to the request is to end its message.
    obtain ⟨_, _, untaken⟩ := moves.sends sends
    refine .ofHalves (.halves receives (moves.of sends) (fun unlost => ?_) fun unlost => ?_)
    · rw [Deed.frames_append, Deed.frames_append, Plan.frames_losses, List.append_nil]
      exact moves.answers (answers fun lost => unlost (List.mem_append_left _ lost))
    · simp only [List.mem_append, not_or] at unlost
      obtain ⟨gathers, once⟩ := gathers unlost.1
      rw [Deed.headers_append, Deed.headers_append, Deed.headers_toList (untaken .header),
        Plan.headers_losses]
      exact ⟨gathers.kept unlost.2.2, once⟩

/-- Every step keeps the frames of both halves in order. -/
theorem Stand.Moves.heads {before after : Stand δ ι} {done more : List Deed}
    (moves : Stand.Moves hooks role before more after) (heads : before.Heads done) :
    after.Heads (done ++ more) := by
  -- The cases are the places at which a round can be.
  obtain ⟨service, round, depot⟩ := before
  have left {onward : Stand δ ι} (left : onward.service = .report ∨ onward.service.Fails) :
      onward.Heads (done ++ []) := by
    rw [List.append_nil]
    exact heads.leave left
  cases heads with
  | opens opens =>
    rcases moves.opens opens with
      ⟨rfl, opens | fails⟩ | ⟨rfl, fallen⟩ | ⟨inbound, _, _, blank, rfl, rfl⟩
    · exact .opens opens
    · exact left (.inr fails)
    · -- The header from which the round has not returned is the only frame.
      exact .gone (.inr (fallen ▸ .fallen)) (fun _ => .inl rfl) fun _ => Nat.le_refl _
    · -- A received header makes no message due, and neither do its hooks.
      have idle : round.context.sending.active = false := congrArg Sending.active blank.sending
      exact .signal (Action.idle_applyAll _ _ (Round.idle_receiveHeader _ _ _ idle)) rfl rfl
  | signal idle unsent once =>
    obtain ⟨rfl, gone | rfl⟩ := moves.greeted
    · exact left (.inr (gone ▸ .unregister))
    · rw [List.append_nil]
      exact .mode idle unsent once
  | mode idle unsent once =>
    obtain ⟨rfl, gone | rfl⟩ := moves.parted
    · exact left (.inr (gone ▸ .unregister))
    · rw [List.append_nil]
      generalize role.pipelines round.context.synchronic = pipelined
      refine .halves Plan.request_of (Plan.response_of pipelined) (fun _ => ?_)
        fun _ => ⟨.ifDue, once⟩
      cases pipelined with
      | true => exact .start idle unsent
      | false => exact .waits .chunks idle unsent
  | halves receives sends answers gathers =>
    exact moves.heads_halves receives sends answers gathers
  | gone gone =>
    rcases gone with reports | fails
    · simp only at reports
      cases reports
      cases moves
      exact left (.inr .unregister)
    · obtain ⟨rfl, fails⟩ := moves.fails fails
      exact left (.inr fails)

end

end SentinelRounds
