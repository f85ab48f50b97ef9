import SentinelRounds.Proofs.Net.Serving

/-! How the service of a link comes to the header of a request. -/

namespace SentinelRounds

variable {δ ι : Type}

/-- Nothing has happened in a round yet. -/
structure Context.Blank (context : Context) : Prop where
  errors : context.errors = 0
  receiving : context.receiving = {}
  sending : context.sending = {}
  signals : context.signals = .clear

/-- A reset leaves nothing of the last round but its mode, a denial, a closing and unread bytes. -/
theorem Round.blank_reset (round : Round ι) (role : Role) : (round.reset role).context.Blank :=
  ⟨rfl, rfl, rfl, rfl⟩

namespace Service

/-- A service is on its way to the header of a request, in a round in which nothing has happened. -/
inductive Opens (context : Context) : Service → Prop
  | reset : Opens context (.request .greeting)
  | begin (blank : context.Blank) : Opens context (.request [.begin, .find .receive])
  | find (blank : context.Blank) : Opens context (.request [.find .receive])
  | choose (blank : context.Blank) : Opens context (.request [.call (.choose .receive)])
  | enter (blank : context.Blank) : Opens context (.request [.call (.enter .receive .header)])
  | search (arrived : Bytes) (blank : context.Blank) :
    Opens context (.request [.call (.search .header arrived)])
  | await (spare : Nat) (blank : context.Blank) :
    Opens context (.request [.call (.await .header spare)])
  | absorb (inbound : Round.Inbound) (blank : context.Blank) :
    Opens context (.request [.call (.absorb .header inbound)])

/--
A service is on its way out, because its link has failed before there was a header; or it does not
return from the header at all.
-/
inductive Fails : Service → Prop
  | halt (fault : LinkFault) : Fails (.request [.call (.halt fault)])
  | close (fault : LinkFault) : Fails (.request [.call (.close fault)])
  | release (fault : LinkFault) : Fails (.request [.call (.release fault)])
  | unregister : Fails .unregister
  | fallen : Fails .fallen

/-- A service has taken the header of its round's request, or never will. -/
inductive Opened : Service → Prop
  | fails {service : Service} (fails : service.Fails) : Opened service
  | signal : Opened (.request [.call (.signal .receive .header)])
  | mode : Opened .mode
  | halves (incoming outgoing : Plan) : Opened (.halves incoming outgoing)
  | report : Opened .report

/-- A round whose halves have taken a step is still opened. -/
theorem Opened.ofHalves (incoming outgoing : Plan) : Opened (.ofHalves incoming outgoing) := by
  -- Either half may have something left to do, or none has.
  unfold Service.ofHalves
  split
  · exact .report
  · exact .halves ..

end Service

namespace Stand.Moves

variable [Transferable ι] [Reversible ι] [Depot δ ι]
variable {hooks : Hooks ι} {role : Role} {before after : Stand δ ι} {deeds : List Deed}

/-- A service that is on its way out stays so, and does nothing else. -/
theorem fails (moves : Stand.Moves hooks role before deeds after) (fails : before.service.Fails) :
    deeds = [] ∧ after.service.Fails := by
  -- The cases are the steps that a service can take.
  cases moves with
  | quit => exact ⟨rfl, .unregister⟩
  | fall falls =>
    -- Only the last step after a failure is left to a call that is on its way out.
    obtain ⟨_, moves⟩ := falls
    rcases moves.failed_cases with ⟨_, rfl, _⟩ | ⟨_, _, rfl, _⟩ | ⟨_, _, rfl, _⟩
    · exact ⟨rfl, .fallen⟩
    · cases fails
    · cases fails
  | request moves =>
    cases fails with
    | halt =>
      cases moves with
      | call _ moves => cases moves; exact ⟨rfl, .close _⟩
      | succeed _ moves => cases moves
    | close =>
      cases moves with
      | call _ moves => cases moves; exact ⟨rfl, .release _⟩
      | succeed _ moves => cases moves
    | release =>
      cases moves with
      | call _ moves going => cases moves; cases going
      | succeed _ moves => cases moves
  | _ => cases fails

/--
Up to the header of a request nothing happens in a round; then the header is taken, and its hooks
run, unless the round does not return from it.
-/
theorem opens (moves : Stand.Moves hooks role before deeds after)
    (opens : before.service.Opens before.round.context) :
    (deeds = [] ∧ (after.service.Opens after.round.context ∨ after.service.Fails)) ∨
    (deeds = [.took .header] ∧ after.service = .fallen) ∨
    ∃ inbound, before.round.fatality before.depot role inbound.frame = none ∧
      before.service = .request [.call (.absorb .header inbound)] ∧
      before.round.context.Blank ∧ deeds = [.took .header] ∧
      after = ⟨.request [.call (.signal .receive .header)],
        (before.round.receiveHeader before.depot role inbound.frame).1.hooked hooks role .receive
          .header,
        (before.round.receiveHeader before.depot role inbound.frame).2⟩ := by
  -- The cases are the steps that a service can take.
  cases moves with
  | quit => exact .inl ⟨rfl, .inr .unregister⟩
  | fall falls =>
    -- The header is all that a service on its way to it may not return from.
    obtain ⟨_, moves⟩ := falls
    rcases moves.failed_cases with ⟨rfl, _⟩ | ⟨_, _, rfl, rfl, _⟩ | ⟨_, _, rfl, _⟩
    · cases opens
    · exact .inr (.inl ⟨rfl, rfl⟩)
    · cases opens
  | request moves =>
    cases opens with
    | reset =>
      cases moves
      exact .inl ⟨rfl, .inl (.begin (Round.blank_reset ..))⟩
    | begin blank =>
      cases moves
      exact .inl ⟨rfl, .inl (.find blank)⟩
    | find blank =>
      cases moves
      exact .inl ⟨rfl, .inl (.choose blank)⟩
    | choose blank =>
      cases moves with
      | call _ moves =>
        cases moves
        -- No message is to be received yet, so it is a header that is chosen.
        rw [show Context.due _ .receive = false from congrArg Receiving.active blank.receiving]
        exact .inl ⟨rfl, .inl (.enter blank)⟩
      | succeed _ moves => cases moves
    | enter blank =>
      cases moves with
      | call _ moves => cases moves; exact .inl ⟨rfl, .inl (.search [] blank)⟩
      | succeed _ moves => cases moves
    | search arrived blank =>
      cases moves with
      | call _ moves =>
        cases moves with
        | find _ _ intake inbound =>
          -- Looking at bytes changes nothing but the intake.
          exact .inl ⟨rfl, .inl (.absorb inbound
            ⟨blank.errors, blank.receiving, blank.sending, blank.signals⟩)⟩
        | starve _ _ intake spare =>
          exact .inl ⟨rfl, .inl (.await spare
            ⟨blank.errors, blank.receiving, blank.sending, blank.signals⟩)⟩
        | reject => exact .inl ⟨rfl, .inr (.halt _)⟩
      | succeed _ moves => cases moves
    | await spare blank =>
      cases moves with
      | call _ moves =>
        cases moves with
        | arrive => exact .inl ⟨rfl, .inl (.search _ blank)⟩
        | starveOut => exact .inl ⟨rfl, .inr (.halt _)⟩
      | succeed _ moves => cases moves
    | absorb inbound blank =>
      -- This is the one step that takes a frame.
      cases moves with
      | call _ moves going =>
        cases moves with
        | greet returned => exact .inr (.inr ⟨inbound, returned, rfl, blank, rfl, rfl⟩)
        | lose => cases going
      | succeed _ moves => cases moves
  | _ => cases opens

/-- Once a header has been taken, its signal is set, and nothing else happens. -/
theorem greeted {round : Round ι} {depot : δ}
    (moves : Stand.Moves hooks role ⟨.request [.call (.signal .receive .header)], round, depot⟩ deeds
      after) :
    deeds = [] ∧ (after.service = .unregister ∨ after =
      ⟨.mode, round.onContext fun context => context.raise (.ofPhase .receive .header), depot⟩) := by
  -- Only one call is left, and it sets the signal.
  cases moves with
  | quit => exact ⟨rfl, .inl rfl⟩
  | fall falls =>
    -- A signal can always be set.
    cases falls with
    | call _ moves => cases moves
  | request moves =>
    cases moves with
    | call _ moves going =>
      cases moves
      cases going
    | succeed _ moves =>
      cases moves
      exact ⟨rfl, .inr rfl⟩

/-- Then a round goes its two ways, and its mode says whether the response waits. -/
theorem parted {round : Round ι} {depot : δ}
    (moves : Stand.Moves hooks role ⟨.mode, round, depot⟩ deeds after) :
    deeds = [] ∧ (after.service = .unregister ∨ after =
      ⟨.halves .request (.response (role.pipelines round.context.synchronic)), round, depot⟩) := by
  -- The service can quit, or go on.
  cases moves with
  | quit => exact ⟨rfl, .inl rfl⟩
  | mode => exact ⟨rfl, .inr rfl⟩

/-- A header is taken only once in a request. -/
theorem opened (moves : Stand.Moves hooks role before deeds after)
    (opened : before.service.Opened) : after.service.Opened := by
  -- The cases are the places behind the header.
  obtain ⟨service, round, depot⟩ := before
  simp only at opened
  cases opened with
  -- What has failed goes on failing.
  | fails fails => exact .fails (moves.fails fails).2
  | signal =>
    obtain ⟨_, left | rfl⟩ := moves.greeted
    · exact left ▸ .fails .unregister
    · exact .mode
  | mode =>
    obtain ⟨_, left | rfl⟩ := moves.parted
    · exact left ▸ .fails .unregister
    · exact .halves ..
  | halves =>
    -- Each half may fail by itself, and else they go on.
    cases moves with
    | quit => exact .fails .unregister
    | fallIncoming | fallOutgoing => exact .fails .fallen
    | incoming => exact .ofHalves ..
    | outgoing => exact .ofHalves ..
  | report =>
    cases moves
    exact .fails .unregister

end Stand.Moves

/-- When the header of a request is about to be taken, nothing has happened in its round yet. -/
theorem Server.Serves.blank [Transferable ι] [Reversible ι] [Depot δ ι] {server after : Server δ ι}
    {id : Nat} {deeds : List Deed} {link last : Link ι} {inbound : Round.Inbound}
    (run : server.Serves id deeds after) (begins : server.At id (.request .greeting) link)
    (reads : after.At id (.request [.call (.absorb .header inbound)]) last) :
    last.round.context.Blank ∧ last.role = link.role ∧ after.hooks = server.hooks := by
  -- A round is on its way to its header, or behind it.
  have kept : ∀ (done more : List Deed) (before after : Stand δ ι),
      before.service.Opens before.round.context ∨ before.service.Opened →
      Stand.Moves server.hooks link.role before more after →
      after.service.Opens after.round.context ∨ after.service.Opened := by
    intro _ more before after holds moves
    -- Once the header has been taken, there is no way back to where it is about to be.
    rcases holds with opens | opened
    · rcases moves.opens opens with ⟨_, opens | fails⟩ | ⟨_, fallen⟩ | ⟨_, _, _, _, _, rfl⟩
      · exact .inl opens
      · exact .inr (.fails fails)
      · exact .inr (.fails (fallen ▸ .fallen))
      · exact .inr .signal
    · exact .inr (moves.opened opened)
  obtain ⟨service, other, stands, played, hooked, holds⟩ := run.invariant
    (fun _ stand => stand.service.Opens stand.round.context ∨ stand.service.Opened) begins
    (.inl .reset) kept
  cases Option.some.inj (reads.service.symm.trans stands.service)
  cases Option.some.inj (reads.link.symm.trans stands.link)
  refine ⟨?_, played, hooked⟩
  rcases holds with opens | opened
  · cases opens with
    | absorb _ blank => exact blank
  · cases opened with
    | fails fails => cases fails

end SentinelRounds
