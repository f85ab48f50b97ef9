import SentinelRounds.Net.Plan
import SentinelRounds.Proofs.Net.Fetch

/-! One party of a connection, as it works off its rounds while its stream arrives in pieces. -/

namespace SentinelRounds

/-- A round that is still to come: what is done to the state of the link before it, and its plan. -/
structure Errand (ι : Type) where
  actions : List (Action ι) := []
  plan : Plan

/-- One party of a connection, whose link stays registered. -/
structure Party (δ ι : Type) where
  plan : Plan := []
  errands : List (Errand ι) := []
  link : Link ι
  site : Site δ
  /-- The pieces of the stream that are still to arrive. -/
  arriving : List Bytes := []
  /-- All bytes that the socket has taken. -/
  written : Bytes := []
  fault : Option LinkFault := none

namespace Plan

variable {ι : Type}

/-- A look for a frame does not end a call. -/
theorem resume_look (phase : Phase) (arrived : Bytes) (link : Link ι) (rest : Plan) :
    resume (Call.look phase arrived link).1 rest =
      .going (.call (Call.look phase arrived link).1 :: rest) := by
  -- What the intake answers decides, and no answer ends a call.
  rw [Call.look_eq]
  generalize link.round.context.intake.receive phase arrived = answer
  obtain ⟨found, after⟩ := answer
  cases found with
  | error offset => rfl
  | ok kind =>
    cases kind with
    | some kind => rfl
    | none =>
      simp only
      split <;> rfl

/-- What the socket delivers does not end a call. -/
theorem resume_arrive {phase : Phase} {reply : Reply} {link after : Link ι} {call : Call}
    (arrived : Call.arrive phase reply link = some (call, after)) (rest : Plan) :
    resume call rest = .going (.call call :: rest) := by
  -- The call goes on to look, or to halt.
  unfold Call.arrive at arrived
  split at arrived <;> cases arrived <;> rfl

end Plan

namespace Role

/-- The task that opens a phase: a client calls its one link, and a server looks the link up. -/
def opens : Role → Transit → Phase → Task
  | .client, transit, phase => .call (.enter transit phase)
  | .server, transit, _ => .find transit

/-- A role's way through one direction of a round. -/
def exchange (role : Role) (transit : Transit) : Plan :=
  [role.opens transit .header, .ifDue transit, role.opens transit .message]

end Role

/-- The bytes that are ahead of a link, in its queue or still to arrive; its lanes are empty. -/
structure Ahead {ι : Type} (settings : Settings) (stream : Bytes) (link : Link ι)
    (arriving : List Bytes) : Prop where
  filled : ∀ piece ∈ arriving, piece ≠ []
  waiting : ∃ pending, link.round.context.intake.Holds settings (fun _ => []) pending ∧
    pending ++ arriving.flatten = stream

/-- With nothing ahead of it, a link has no bytes and expects none. -/
theorem Ahead.nothing {ι : Type} {settings : Settings} {link : Link ι} {arriving : List Bytes}
    (ahead : Ahead settings [] link arriving) :
    arriving = [] ∧ link.round.context.intake.Holds settings (fun _ => []) [] := by
  -- Pieces are not empty, so nothing to arrive means no pieces.
  obtain ⟨filled, pending, holds, whole⟩ := ahead
  obtain ⟨rfl, flat⟩ := List.append_eq_nil_iff.mp whole
  refine ⟨?_, holds⟩
  rw [List.flatten_eq_nil_iff] at flat
  exact List.eq_nil_iff_forall_not_mem.mpr fun piece member => filled piece member (flat piece member)

/-- What is ahead of a link depends on its intake only. -/
theorem Ahead.congr {ι : Type} {settings : Settings} {stream : Bytes} {link other : Link ι}
    {arriving : List Bytes} (ahead : Ahead settings stream link arriving)
    (same : other.round.context.intake = link.round.context.intake) :
    Ahead settings stream other arriving := by
  -- What has come in is all in the intake.
  refine ⟨ahead.filled, ?_⟩
  rw [same]
  exact ahead.waiting

namespace Party

variable {δ ι : Type}

/--
What the socket answers to the first task of a plan: it delivers the next piece as far as it is
asked for, and takes whatever is written.
-/
def answer (party : Party δ ι) : Reply × Party δ ι :=
  match party.plan.demand with
  | .bytes limit =>
    let (reply, arriving) := delivered limit party.arriving
    (reply, { party with arriving })
  | .write bytes => (.done, { party with written := party.written ++ bytes })
  | .nothing | .finish => (.pending, party)

/-- How a party goes on after a step of its plan; nothing is done after a fault. -/
def goOn (party : Party δ ι) : Progress → Party δ ι
  | .going plan => { party with plan }
  | .failed fault => { party with plan := [], errands := [], fault := some fault }
  | .lost => { party with plan := [], errands := [] }

section

variable [Transferable ι] [Reversible ι] [Depot δ ι]

/-- One step of the plan, or else the start of the next round. -/
def step (hooks : Hooks ι) (party : Party δ ι) : Option (Party δ ι) :=
  match party.plan, party.errands with
  | [], [] => none
  | [], errand :: errands =>
    some { party with plan := errand.plan, errands, link := party.link.act errand.actions }
  | plan, _ =>
    let (reply, answered) := party.answer
    (plan.step hooks true reply party.link party.site).map fun (progress, link, site) =>
      { answered with link, site }.goOn progress

/-- Every header that a party comes to send is sent. -/
def HeadersSent (hooks : Hooks ι) (party : Party δ ι) : Prop :=
  ∀ after, Reaches (step hooks) party after →
    ∀ rest, after.plan = .call (.compose .header) :: rest →
      ∃ kind sent, after.link.round.sendHeader after.link.role = (.ok kind, sent)

/-- What holds of all headers holds of those from a later state on. -/
theorem HeadersSent.later {hooks : Hooks ι} {party after : Party δ ι}
    (sent : party.HeadersSent hooks) (reached : Reaches (step hooks) party after) :
    after.HeadersSent hooks :=
  fun last more => sent last (reached.trans more)

/-- Whether a party that is about to send a header can send it. -/
def headerSent (party : Party δ ι) : Bool :=
  match party.plan with
  | .call (.compose .header) :: _ =>
    match (party.link.round.sendHeader party.link.role).1 with
    | .ok _ => true
    | .error _ => false
  | _ => true

/-- Headers that can be sent along a run to its end are all headers. -/
theorem headersSent_of_holdsAlong {hooks : Hooks ι} {party : Party δ ι} (fuel : Nat)
    (holds : holdsAlong (step hooks) headerSent fuel party = true) : party.HeadersSent hooks := by
  -- A header to be sent is one of the places that the test has seen.
  intro after reached rest first
  have sent := reached.of_holdsAlong holds
  rw [headerSent, first] at sent
  -- The test has seen that the header is sent.
  cases made : after.link.round.sendHeader after.link.role with
  | mk answer round =>
    cases answer with
    | ok kind => exact ⟨kind, round, rfl⟩
    | error fault =>
      simp only [made] at sent
      cases sent

/-- A party that has worked off its plan and its errands takes no more steps. -/
theorem step_over (hooks : Hooks ι) {party : Party δ ι} (complete : party.plan = [])
    (done : party.errands = []) : party.step hooks = none := by
  -- There is no task to begin with, and no errand to set out on.
  obtain ⟨_, _, link, site, arriving, written, fault⟩ := party
  simp only at complete done
  subst complete done
  rfl

/-- A call that takes a step without the socket takes its party along. -/
theorem step_call {hooks : Hooks ι} {party : Party δ ι} {call after : Call} {rest plan : Plan}
    {link : Link ι} {site : Site δ} (first : party.plan = .call call :: rest)
    (alone : call.demand = .nothing)
    (moved : call.step hooks .pending party.link party.site = some (after, link, site))
    (going : Plan.resume after rest = .going plan) :
    party.step hooks = some { party with plan, link, site } := by
  -- A call that asks nothing of the socket finds it as it was.
  obtain ⟨_, errands, before, place, arriving, written, fault⟩ := party
  simp only at first moved
  subst first
  simp only [step, answer, Plan.demand, alone, Plan.step, moved, Option.map_some, going, goOn]

/-- A party whose call halts the round comes to its end, with a fault. -/
theorem halts (hooks : Hooks ι) (party : Party δ ι) {fault : LinkFault} {rest : Plan}
    (first : party.plan = .call (.halt fault) :: rest) :
    ∃ link, Reaches (step hooks) party
      { party with plan := [], errands := [], link, fault := some fault } := by
  -- The step is taken on the parts of the party.
  obtain ⟨_, errands, link, site, arriving, written, trouble⟩ := party
  simp only at first
  subst first
  -- The round is halted, the fault is noted in the state of the link, and nobody waits any more.
  exact ⟨_, Reaches.head rfl (Reaches.head rfl (Reaches.head rfl (Reaches.refl _)))⟩

/-- A party that cannot send its header comes to its end, with the fault of its round. -/
theorem composes_fault (hooks : Hooks ι) (party : Party δ ι) {fault : RoundFault}
    {round : Round ι} {rest : Plan} (first : party.plan = .call (.compose .header) :: rest)
    (made : party.link.round.sendHeader party.link.role = (.error fault, round)) :
    ∃ link, Reaches (step hooks) party
      { party with plan := [], errands := [], link, fault := some (.round fault) } := by
  -- The header is made by the round, which fails.
  obtain ⟨_, errands, link, site, arriving, written, trouble⟩ := party
  simp only at first made
  subst first
  have prepared : Call.step hooks .pending (.compose .header) link site =
      some (Call.fail fault, { link with round }, site) := by
    simp only [Call.step, Call.prepare, Round.dispatch, made, reduceCtorEq, false_and, if_false]
  -- A fault that the round does not return from ends the call at once.
  by_cases fatal : fault.isFatal = true
  · have failed : Call.fail fault = .failed (.round fault) := if_pos fatal
    rw [failed] at prepared
    have moved : step hooks ⟨.call (.compose .header) :: rest, errands, link, site, arriving,
        written, trouble⟩ = some ⟨[], [], { link with round }, site, arriving, written,
          some (.round fault)⟩ := by
      simp only [step, answer, Plan.demand, Call.demand, Plan.step, prepared, Option.map_some,
        Plan.resume, goOn]
    exact ⟨_, Reaches.head moved (Reaches.refl _)⟩
  · have halting : Call.fail fault = .halt (.round fault) := if_neg fatal
    rw [halting] at prepared
    have moved := @step_call _ _ _ _ _ hooks ⟨.call (.compose .header) :: rest, errands, link, site,
      arriving, written, trouble⟩ _ _ rest _ _ _ rfl rfl prepared rfl
    obtain ⟨last, halted⟩ := halts hooks ⟨.call (.halt (.round fault)) :: rest, errands,
      { link with round }, site, arriving, written, trouble⟩ rfl
    exact ⟨last, Reaches.head moved halted⟩

/-- A run that does not end in a fault of its round has sent all its headers. -/
theorem headersSent_of_ended {hooks : Hooks ι} {party last : Party δ ι}
    (reached : Reaches (step hooks) party last) (ended : last.step hooks = none)
    (sound : ∀ fault, last.fault ≠ some (.round fault)) : party.HeadersSent hooks := by
  -- Every place on the run has the rest of the run before it.
  intro after met rest first
  have onward := reached.of_ended ended met
  cases made : after.link.round.sendHeader after.link.role with
  | mk answer round =>
    cases answer with
    | ok kind => exact ⟨kind, round, rfl⟩
    | error fault =>
      -- A header that is not sent would have been the end of the run.
      obtain ⟨link, failed⟩ := composes_fault hooks after first made
      have same := onward.eq_of_ended ended failed (step_over hooks rfl rfl)
      exact absurd (congrArg Party.fault same).symm (sound fault)

/-- A step towards a frame is a step of the party that is after it. -/
theorem step_fetch (hooks : Hooks ι) (party : Party δ ι) (rest : Plan) {before after : Fetch ι}
    (moved : before.step = some after) :
    step hooks { party with
        plan := .call before.call :: rest, link := before.link, arriving := before.arriving } =
      some { party with
        plan := .call after.call :: rest, link := after.link, arriving := after.arriving } := by
  -- Only a call that searches or waits takes a step towards a frame.
  obtain ⟨call, link, arriving⟩ := before
  cases call with
  | search phase arrived =>
    cases moved
    exact step_call rfl rfl rfl (Plan.resume_look phase arrived link rest)
  | await phase spare =>
    rcases found : delivered spare arriving with ⟨reply, later⟩
    cases arrived : Call.arrive phase reply link with
    | none =>
      simp only [Fetch.step, found, arrived] at moved
      cases moved
    | some went =>
      obtain ⟨call, fed⟩ := went
      simp only [Fetch.step, found, arrived] at moved
      cases moved
      simp only [step, answer, Plan.demand, Call.demand, found, Plan.step, Call.step, arrived,
        Option.map_some, Plan.resume_arrive arrived, goOn]
  | _ => cases moved

/-- A party that is after a frame comes to what its stream as a whole comes to. -/
theorem fetches_end (hooks : Hooks ι) (party : Party δ ι) {settings : Settings} {phase : Phase}
    {stream : Bytes} {rest : Plan} (first : party.plan = .call (.search phase []) :: rest)
    (ahead : Ahead settings stream party.link party.arriving) :
    ∃ call link arriving, Reaches (step hooks) party
        { party with plan := .call call :: rest, link, arriving } ∧
      Fetch.Stands settings phase stream party.link ⟨call, link, arriving⟩ ∧
      call = match settings.outcome phase stream with
        | .ok inbound => .absorb phase inbound
        | .error fault => .halt fault := by
  -- At first nothing has arrived, and the queue is ahead of the pieces.
  obtain ⟨filled, pending, holds, whole⟩ := ahead
  have initially : Fetch.Stands settings phase stream party.link
      ⟨.search phase [], party.link, party.arriving⟩ := by
    refine ⟨filled, _, _, [], pending, (Link.fed_self party.link).symm, ?_, rfl, Nat.zero_le _,
      .inl rfl, ?_⟩
    · rw [Intake.only_nil]
      exact holds
    · exact whole
  -- The call is followed until it is stuck, which is when the frame is at hand, or a fault.
  obtain ⟨⟨call, link, arriving⟩, reached, stuck, stands⟩ := Reaches.ends Fetch.rank
    (fun _ _ stands moved => stands.step moved) initially
  refine ⟨call, link, arriving, ?_, stands, stands.ended stuck⟩
  -- The party takes the same steps as the call.
  have taken := Reaches.simulated (fun fetch : Fetch ι => { party with
    plan := .call fetch.call :: rest, link := fetch.link, arriving := fetch.arriving })
    (fun _ _ moved => step_fetch hooks party rest moved) reached
  rwa [← first] at taken

/--
A party that is after a frame comes to hold the one its stream begins with, and what follows the
frame is then ahead of it.
-/
theorem fetches (hooks : Hooks ι) (party : Party δ ι) {settings : Settings} {phase : Phase}
    {stream : Bytes} {rest : Plan} {inbound : Round.Inbound}
    (first : party.plan = .call (.search phase []) :: rest)
    (ahead : Ahead settings stream party.link party.arriving)
    (outcome : settings.outcome phase stream = .ok inbound) :
    ∃ intake stats arriving, Reaches (step hooks) party
      { party with
        plan := .call (.absorb phase inbound) :: rest
        link := party.link.fed intake stats
        arriving } ∧
      Ahead settings (stream.drop (settings.taken phase stream)) (party.link.fed intake stats)
        arriving := by
  -- The stream begins with a frame, so that is what the call comes to.
  obtain ⟨call, link, arriving, reached, stands, came⟩ := fetches_end hooks party first ahead
  -- The frame is at hand, and the lanes are empty again.
  rw [outcome] at came
  obtain ⟨others, intake, stats, held, queue, linked, kept, knows⟩ := stands
  simp only at came linked knows kept
  subst came linked
  obtain ⟨_, rfl, _, left⟩ := knows
  rw [Intake.only_nil] at kept
  exact ⟨intake, stats, arriving, reached, others, queue, kept, left⟩

/-- A party that is after a frame of a stream without one comes to halt its round. -/
theorem fetches_fault (hooks : Hooks ι) (party : Party δ ι) {settings : Settings} {phase : Phase}
    {stream : Bytes} {rest : Plan} {fault : LinkFault}
    (first : party.plan = .call (.search phase []) :: rest)
    (ahead : Ahead settings stream party.link party.arriving)
    (outcome : settings.outcome phase stream = .error fault) :
    ∃ link arriving, Reaches (step hooks) party
      { party with plan := .call (.halt fault) :: rest, link, arriving } := by
  -- The stream has no frame, so a fault is what the call comes to.
  obtain ⟨call, link, arriving, reached, _, came⟩ := fetches_end hooks party first ahead
  -- The fault is at hand.
  rw [outcome] at came
  simp only at came
  subst came
  exact ⟨link, arriving, reached⟩

/-- A party whose first task opens a phase comes to the call for it. -/
theorem opens (hooks : Hooks ι) (party : Party δ ι) {role : Role} {transit : Transit}
    {phase : Phase} {rest : Plan} (first : party.plan = role.opens transit phase :: rest)
    (due : party.link.duePhase transit = phase) :
    Reaches (step hooks) party
      { party with
        plan := .call (Call.start transit phase) :: rest
        link := { party.link with state := .ofPhase phase } } := by
  -- The step is taken on the parts of the party.
  obtain ⟨_, errands, link, site, arriving, written, fault⟩ := party
  simp only at first due
  subst first
  -- Whoever enters a phase does so in one step.
  have entered : step hooks ⟨.call (.enter transit phase) :: rest, errands, link, site, arriving,
      written, fault⟩ = some ⟨.call (Call.start transit phase) :: rest, errands,
        { link with state := .ofPhase phase }, site, arriving, written, fault⟩ := by
    refine step_call rfl rfl rfl ?_
    cases transit <;> cases phase <;> rfl
  cases role with
  | client => exact Reaches.head entered (Reaches.refl _)
  | server =>
    -- The link is looked up, and then it is seen which phase is due.
    have found : step hooks ⟨.find transit :: rest, errands, link, site, arriving, written, fault⟩ =
        some ⟨.call (.choose transit) :: rest, errands, link, site, arriving, written, fault⟩ := rfl
    refine Reaches.head found (Reaches.head (step_call rfl rfl rfl rfl) ?_)
    rw [due]
    exact Reaches.head entered (Reaches.refl _)

/-- A party whose message is due goes on to it. -/
theorem ifDue (hooks : Hooks ι) (party : Party δ ι) {transit : Transit} {rest : Plan}
    (first : party.plan = .ifDue transit :: rest) :
    Reaches (step hooks) party
      { party with plan := if party.link.isDue transit then rest else rest.drop 1 } := by
  -- It is one step, whether the message is due or not.
  obtain ⟨_, errands, link, site, arriving, written, fault⟩ := party
  simp only at first
  subst first
  exact Reaches.head rfl (Reaches.refl _)

/-- Once a phase is complete, its hooks run and its signal is set. -/
theorem concludes (hooks : Hooks ι) (party : Party δ ι) {transit : Transit} {phase : Phase}
    {rest : Plan} (first : party.plan = .call (.conclude transit phase) :: rest) :
    ∃ stats site, Reaches (step hooks) party
      { party with
        plan := rest
        link := { party.link with
          stats
          round := (Action.applyAll (hooks.actions (.completed transit phase) party.link.round)
            party.link.role party.link.round).onContext fun context =>
              context.raise (.ofPhase transit phase) }
        site } ∧ site.depot = party.site.depot := by
  -- The step is taken on the parts of the party.
  obtain ⟨_, errands, link, site, arriving, written, fault⟩ := party
  simp only at first
  subst first
  -- The hooks see the site, and what they may change of it is not the depot.
  have journal : ∀ event : Event,
      (hooks.run event link.role link.round site).2.depot = site.depot := by
    intro event
    unfold Hooks.run
    split <;> rfl
  -- Each phase is concluded in two steps, the signal coming last.
  cases transit with
  | receive =>
    refine ⟨_, _, Reaches.head (step_call rfl rfl rfl rfl) <|
      Reaches.head (step_call rfl rfl rfl rfl) (Reaches.refl _), journal _⟩
  | send =>
    cases phase with
    | header =>
      refine ⟨_, _, Reaches.head (step_call rfl rfl rfl rfl) <|
        Reaches.head (step_call rfl rfl rfl rfl) (Reaches.refl _), journal _⟩
    | message =>
      refine ⟨_, _, Reaches.head (step_call rfl rfl rfl rfl) <|
        Reaches.head (step_call rfl rfl rfl rfl) (Reaches.refl _), journal _⟩

end

end Party

end SentinelRounds
