import SentinelRounds.Proofs.Net.Listening

/-! Whole rounds of one party: how they begin, and what they leave behind. -/

namespace SentinelRounds

namespace Link

/-- A link between two rounds, neither closing nor denied. -/
structure Rests (role : Role) (settings : Settings) (identity : Identity)
    (link : Link Parcel) : Prop where
  played : link.role = role
  configured : link.round.context.settings = settings
  named : link.round.context.identity = identity
  close : link.round.context.close = false
  denied : link.round.context.denied = false
  idle : link.round.context.sending.active = false

/-- The link of a fresh socket rests. -/
theorem rests_opened (id : Nat) (role : Role) (socket : Nat) (identity : Identity)
    (settings : Settings) : (opened id role socket identity settings).Rests role settings identity :=
  ⟨rfl, rfl, rfl, rfl, rfl, rfl⟩

/-- Nothing is ahead of the link of a fresh socket but what is to arrive. -/
theorem ahead_opened (id : Nat) (role : Role) (socket : Nat) (identity : Identity)
    (settings : Settings) {pieces : List Bytes} (filled : ∀ piece ∈ pieces, piece ≠ []) :
    Ahead settings pieces.flatten (opened id role socket identity settings : Link Parcel) pieces :=
  ⟨filled, [], Intake.holds_ofSettings settings, rfl⟩

section

variable {role : Role} {settings : Settings} {identity : Identity} {link : Link Parcel}

/-- Items prepared by a client leave its link at rest. -/
theorem Rests.act (rests : link.Rests .client settings identity) (items : List Parcel) :
    (link.act [.items items]).Rests .client settings identity ∧
      (link.act [.items items]).round.request.items = items := by
  -- The items are put into the request of the client's round.
  obtain ⟨played, configured, named, close, denied, idle⟩ := rests
  obtain ⟨id, _, socket, round, state, stats⟩ := link
  simp only at played
  subst played
  exact ⟨⟨rfl, configured, named, close, denied, idle⟩, rfl⟩

/-- When a round begins on a link at rest, a message can be received. -/
theorem Rests.open_begin (rests : link.Rests role settings identity) :
    link.reset.begin.Open role settings :=
  ⟨rests.played, rests.configured, ⟨rests.close, rests.denied, rfl⟩, rfl⟩

/-- When a client's round begins on a link at rest, the prepared items can be sent. -/
theorem Rests.ready_begin (rests : link.Rests .client settings identity) :
    link.reset.begin.Ready .client settings link.round.request.items := by
  -- The reset takes the counters back, and the items stay.
  obtain ⟨played, configured, named, close, denied, idle⟩ := rests
  obtain ⟨id, _, socket, round, state, stats⟩ := link
  simp only at played
  subst played
  exact ⟨rfl, configured, ⟨close, denied, rfl⟩, rfl, rfl, rfl, rfl⟩

/-- The beginning of a round loses nothing of what is ahead. -/
theorem ahead_begin {stream : Bytes} {arriving : List Bytes}
    (ahead : Ahead settings stream link arriving) :
    Ahead settings stream link.reset.begin arriving := by
  -- The lanes are empty, so rewinding puts nothing before the queue.
  obtain ⟨filled, pending, holds, whole⟩ := ahead
  exact ⟨filled, pending, holds.rewind, whole⟩

/-- A link that has sent everything rests again. -/
theorem Speaks.rests {items : List Parcel} {origin : Round Parcel}
    (speaks : link.Speaks role settings items none origin) (clear : origin.context.Clear) :
    link.Rests role settings origin.context.identity :=
  ⟨speaks.played, speaks.sends.configured, speaks.same.identity,
    speaks.same.close.trans clear.close, speaks.same.denied.trans clear.denied,
    speaks.sends.progress⟩

/-- A link that has received everything rests again. -/
theorem Listens.rests {batch : Nat} {sender : Identity} {items : List Parcel}
    {origin : Round Parcel} {header : Header}
    (listens : link.Listens role batch sender items none origin header)
    (configured : origin.context.settings = settings) (clear : origin.context.Clear)
    (idle : origin.context.sending.active = false) :
    link.Rests role settings origin.context.identity :=
  ⟨listens.played, listens.same.settings.trans configured, listens.same.identity,
    listens.same.close.trans clear.close, listens.same.denied.trans clear.denied,
    by rw [listens.same.sending]; exact idle⟩

/-- Without hooks, a link that has received everything is left with a signal at most. -/
theorem Listens.settled {batch : Nat} {sender : Identity} {items : List Parcel}
    {origin : Round Parcel} {header : Header} {heard : Link Parcel}
    (listens : heard.Listens role batch sender items none origin header) (played : link.role = role)
    (settled : link.round = Hooks.none.settled role items heard.round) :
    link.Listens role batch sender items none origin header := by
  -- Hooks that do nothing leave the round, or set the signal of the message.
  obtain ⟨_, receives, same, headed⟩ := listens
  unfold Hooks.settled at settled
  split at settled
  · exact ⟨played, by rw [settled]; exact receives, by rw [settled]; exact same,
      by rw [settled]; exact headed⟩
  · have raised := receives.onContext (fun context => context.raise .messageReceived) rfl rfl
      fun set => set
    refine ⟨played, by rw [settled]; exact raised, ?_, ?_⟩
    · rw [settled]
      refine same.trans ?_
      cases role <;> exact ⟨rfl, rfl, rfl, rfl, rfl, rfl, rfl, rfl, rfl⟩
    · rw [settled, ← headed]
      cases role <;> rfl

/-- A link that has sent everything can receive. -/
theorem Speaks.open {items : List Parcel} {origin : Round Parcel}
    (speaks : link.Speaks role settings items none origin) (clear : origin.context.Clear)
    (idle : origin.context.receiving.active = false) : link.Open role settings :=
  ⟨speaks.played, speaks.sends.configured,
    ⟨speaks.same.close.trans clear.close, speaks.same.denied.trans clear.denied,
      speaks.same.errors.trans clear.errors⟩,
    by rw [speaks.same.receiving]; exact idle⟩

end

end Link

namespace Party

/-- A party at the end of a round in which nothing has gone wrong, and every message is complete. -/
structure Completed (party : Party MemoryDepot Parcel) : Prop where
  complete : party.plan = []
  fault : party.fault = none
  clear : party.link.round.context.Clear
  sent : party.link.round.context.sending.active = false
  received : party.link.round.context.receiving.active = false
  left : party.link.round.context.receiving.left = 0

/-- A round begins once what the last one has left is cleared. -/
theorem begins (hooks : Hooks Parcel) (party : Party MemoryDepot Parcel) {rest : Plan}
    (first : party.plan = .reset :: .begin :: rest) :
    Reaches (step hooks) party { party with plan := rest, link := party.link.reset.begin } := by
  -- The step is taken on the parts of the party.
  obtain ⟨_, errands, link, site, arriving, written, fault⟩ := party
  simp only at first
  subst first
  -- Both tasks are one step each.
  exact Reaches.head rfl (Reaches.head rfl (Reaches.refl _))

/-- A party that has worked off its plan sets out on its next errand. -/
theorem setsOut (hooks : Hooks Parcel) (party : Party MemoryDepot Parcel) {errand : Errand Parcel}
    {errands : List (Errand Parcel)} (done : party.plan = [])
    (more : party.errands = errand :: errands) :
    Reaches (step hooks) party
      { party with plan := errand.plan, errands, link := party.link.act errand.actions } := by
  -- It is one step, which takes over the plan of the errand.
  obtain ⟨_, _, link, site, arriving, written, fault⟩ := party
  simp only at done more
  subst done more
  exact Reaches.head rfl (Reaches.refl _)

/-- A client writes the request it has prepared. -/
theorem asks (hooks : Hooks Parcel) (party : Party MemoryDepot Parcel) {settings : Settings}
    {identity : Identity} {rest : Plan} (silent : hooks.Silent)
    (first : party.plan = .reset :: .begin :: Role.client.exchange .send ++ rest)
    (rests : party.link.Rests .client settings identity) (usable : settings.Usable)
    (counts : settings.Counts party.link.round.request.items)
    (answered : party.HeadersSent hooks) :
    ∃ link site bytes, Reaches (step hooks) party
      { party with plan := rest, link, site, written := party.written ++ bytes } ∧
      Transmits settings identity party.link.round.request.items bytes ∧
      link.Speaks .client settings party.link.round.request.items none
        party.link.reset.begin.round ∧
      site.depot = party.site.depot := by
  -- The round begins, and the link is ready for what it carries.
  have begun := begins hooks party first
  obtain ⟨link, site, bytes, wrote, transmits, speaks, depot⟩ := speaks hooks
    { party with
      plan := Role.client.exchange .send ++ rest, link := party.link.reset.begin } silent rfl
    rests.ready_begin usable counts (answered.later begun)
  refine ⟨link, site, bytes, begun.trans wrote, ?_, speaks, depot⟩
  rw [← rests.named]
  exact transmits

/-- Without hooks, a party receives and merges what another end writes. -/
theorem receives (party : Party MemoryDepot Parcel) {receiver sender : Settings} {role : Role}
    {identity : Identity} {items : List Parcel} {bytes more : Bytes} {rest : Plan}
    (first : party.plan = role.exchange .receive ++ rest) (ready : party.link.Open role receiver)
    (hears : receiver.Hears sender) (usable : sender.Usable)
    (transmits : Transmits sender identity items bytes) (keyed : ∀ item ∈ items, item.key ≠ "")
    (stored : ∀ item ∈ items, item.body.length < allocationBound)
    (welcomes : party.site.depot.Welcomes identity)
    (ahead : Ahead receiver (bytes ++ more) party.link party.arriving) :
    ∃ (link : Link Parcel) (header : Header) (site : Site MemoryDepot) (arriving : List Bytes),
      Reaches (step .none) party { party with plan := rest, link, site, arriving } ∧
      Ahead receiver more link arriving ∧ header.Announces sender.batchSize identity items ∧
      link.Listens role sender.batchSize identity items none party.link.round header ∧
      site.depot.targets.contains identity.id = true ∧
      ∀ key, site.depot.get? identity.id key =
        (MemoryDepot.lastOf items key).or (party.site.depot.get? identity.id key) := by
  -- There are no hooks that could change anything.
  have lenient : ∀ header : Header, header.Announces sender.batchSize identity items →
      Hooks.none.Lenient role header :=
    fun _ _ round _ => ⟨round.context.synchronic, rfl⟩
  obtain ⟨link, heard, header, site, arriving, reached, left, announces, listens, played, settled,
    contained, kept⟩ := Party.hears .none party first ready hears usable lenient transmits keyed
      stored welcomes ahead
  exact ⟨link, header, site, arriving, reached, left, announces, listens.settled played settled,
    contained, kept⟩

end Party

end SentinelRounds
