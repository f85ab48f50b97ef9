import SentinelRounds.Proofs.Net.Party
import SentinelRounds.Proofs.Round.Sending

/-! One party sends: the header and then every chunk, in frames that go to the socket in order. -/

namespace SentinelRounds

/--
Some bytes are what an end writes for some parcels: a header that announces them, and then their
chunks.
-/
def Transmits (settings : Settings) (sender : Identity) (items : List Parcel)
    (bytes : Bytes) : Prop :=
  ∃ header : Header, header.Announces settings.batchSize sender items ∧
    items.length < UInt32.size ∧
    (∀ item ∈ items, item.chunkCount settings.batchSize < UInt32.size) ∧
    (Round.headerFrame settings header).length ≤ settings.headerCapacity ∧
    bytes = Round.headerFrame settings header ++
      (items.flatMap (Parcel.chunksFrom settings.batchSize · 0)).flatMap (Round.chunkFrame settings)

/-- Hooks that leave alone what they see sent. -/
def Hooks.Silent (hooks : Hooks Parcel) : Prop :=
  ∀ phase round, hooks.actions (.completed .send phase) round = []

namespace Link

/-- A link on which some parcels are ready to be sent. -/
structure Ready (role : Role) (settings : Settings) (items : List Parcel)
    (link : Link Parcel) : Prop where
  played : link.role = role
  configured : link.round.context.settings = settings
  clear : link.round.context.Clear
  current : (link.round.outgoingHeader role).version = protocolVersion
  carried : (link.round.outgoing role).items = items
  empty : link.round.context.output = []
  idle : link.round.context.sending.active = false

/--
A link that is sending some parcels and stands at a place among them, with the round it began to
send in.
-/
structure Speaks (role : Role) (settings : Settings) (items : List Parcel) (place : Option Place)
    (origin : Round Parcel) (link : Link Parcel) : Prop where
  played : link.role = role
  sends : link.round.Sends role settings items place
  empty : link.round.context.output = []
  same : Round.SameReceiving role origin link.round

/-- A signal that is set is nothing to a link that is sending. -/
theorem Speaks.raise {role : Role} {settings : Settings} {items : List Parcel}
    {place : Option Place} {origin : Round Parcel} {link : Link Parcel}
    (speaks : link.Speaks role settings items place origin) (stats : Stats) (signal : Signal) :
    Speaks role settings items place origin { link with
      stats, round := link.round.onContext fun context => context.raise signal } := by
  -- What is sent is not looked at by signals.
  refine ⟨speaks.played, speaks.sends.onContext (fun context => context.raise signal) rfl rfl,
    speaks.empty, speaks.same.trans ?_⟩
  cases role <;> exact ⟨rfl, rfl, rfl, rfl, rfl, rfl, rfl, rfl, rfl, rfl, rfl⟩

end Link

namespace Party

variable {δ : Type} [Depot δ Parcel] (hooks : Hooks Parcel) (party : Party δ Parcel)

/-- Once a phase is sent and the hooks leave it alone, its signal is set. -/
theorem concludes_silent {phase : Phase} {rest : Plan}
    (silent : hooks.Silent) (first : party.plan = .call (.conclude .send phase) :: rest) :
    ∃ stats site, Reaches (step hooks) party
      { party with
        plan := rest
        link := { party.link with
          stats
          round := party.link.round.onContext fun context =>
            context.raise (.ofPhase .send phase) }
        site } ∧ site.depot = party.site.depot := by
  -- Silent hooks have no actions to apply.
  obtain ⟨stats, site, concluded, depot⟩ := concludes hooks party first
  rw [silent phase party.link.round] at concluded
  exact ⟨stats, site, concluded, depot⟩

/-- A frame that a round makes goes to the socket as a whole. -/
theorem composes {phase : Phase} {rest : Plan} {kind : Markup}
    {round : Round Parcel} (first : party.plan = .call (.compose phase) :: rest)
    (due : phase = .message → party.link.isDue .send = true)
    (sent : party.link.round.dispatch party.site.depot party.link.role .send phase none =
      (.ok kind, round, party.site.depot)) :
    ∃ stats, Reaches (step hooks) party
      { party with
        plan := .call (match phase with
          | .header => .conclude .send .header
          | .message => .compose .message) :: rest
        link := { party.link with
          stats, round := round.onContext fun context => { context with output := [] } }
        written := party.written ++ round.context.output } := by
  -- The step is taken on the parts of the party.
  obtain ⟨_, errands, link, site, arriving, written, fault⟩ := party
  simp only at first sent due
  subst first
  -- A frame is made as long as a message is due.
  have made : Call.prepare phase link site = (.write phase round.context.output,
      { link with round := round.onContext fun context => { context with output := [] } }, site) := by
    have more : ¬ (phase = .message ∧ link.isDue .send = false) := by
      rintro ⟨same, idle⟩
      rw [due same] at idle
      cases idle
    simp only [Call.prepare, if_neg more, sent]
    rfl
  have composed := congrArg some made
  -- The frame goes to the socket, and a header is then concluded.
  cases phase with
  | header =>
    exact ⟨_, Reaches.head (step_call rfl rfl composed rfl) (Reaches.head rfl (Reaches.refl _))⟩
  | message =>
    exact ⟨_, Reaches.head (step_call rfl rfl composed rfl) (Reaches.head rfl (Reaches.refl _))⟩

/-- A header that is sent goes to the socket, and then the chunks are due. -/
theorem speaks_header {role : Role} {settings : Settings}
    {items : List Parcel} {rest : Plan} (silent : hooks.Silent)
    (first : party.plan = .call (.compose .header) :: rest)
    (ready : party.link.Ready role settings items) (checked : settings.check = .ok ())
    (counts : settings.Counts items) (answered : party.HeadersSent hooks) :
    ∃ link site header, Reaches (step hooks) party
      { party with
        plan := rest, link, site
        written := party.written ++ Round.headerFrame settings header } ∧
      header.Announces settings.batchSize party.link.round.context.identity items ∧
      items.length < UInt32.size ∧
      (∀ item ∈ items, item.chunkCount settings.batchSize < UInt32.size) ∧
      (Round.headerFrame settings header).length ≤ settings.headerCapacity ∧
      link.Speaks role settings items (Place.first items) party.link.round ∧
      site.depot = party.site.depot := by
  -- The header is sent, because it can be.
  obtain ⟨kind, round, sent⟩ := answered party (Reaches.refl _) rest first
  obtain ⟨rfl, rfl, clear, current, rfl, empty, idle⟩ := ready
  obtain ⟨header, announces, countable, counted, fits, output, same, sends⟩ :=
    Round.sendHeader_sent rfl checked clear current counts sent
  have dispatched : party.link.round.dispatch party.site.depot party.link.role .send .header none =
      (.ok kind, round, party.site.depot) := by
    simp only [Round.dispatch, sent]
  -- It goes to the socket whole, since there was no output before it.
  obtain ⟨stats, composed⟩ := composes hooks party first (fun other => by cases other)
    dispatched
  rw [output, empty, List.nil_append] at composed
  obtain ⟨_, site, concluded, depot⟩ := concludes_silent hooks
    { party with
      plan := .call (.conclude .send .header) :: rest
      link := { party.link with
        stats, round := round.onContext fun context => { context with output := [] } }
      written := party.written ++ Round.headerFrame party.link.round.context.settings header }
    silent rfl
  -- Emptying the output and setting the signal leave the announcement alone.
  have ready := (sends.onContext (fun context => { context with output := [] }) rfl rfl).onContext
    (fun context => context.raise (.ofPhase .send .header)) rfl rfl
  refine ⟨_, site, header, composed.trans concluded, announces, countable, counted, fits,
    ⟨rfl, ready, rfl, same.trans ?_⟩, depot⟩
  cases party.link.role <;> exact ⟨rfl, rfl, rfl, rfl, rfl, rfl, rfl, rfl, rfl, rfl, rfl⟩

/-- The next chunk goes to the socket, and the link stands at the place after it. -/
theorem speaks_chunk {role : Role} {settings : Settings}
    {items : List Parcel} {place : Place} {origin : Round Parcel} {rest : Plan}
    (first : party.plan = .call (.compose .message) :: rest)
    (speaks : party.link.Speaks role settings items (some place) origin)
    (usable : settings.Usable)
    (counted : ∀ item ∈ items, item.chunkCount settings.batchSize < UInt32.size) :
    ∃ link, Reaches (step hooks) party
      { party with
        link
        written := party.written ++
          Round.chunkFrame settings (place.chunk settings.batchSize) } ∧
      link.Speaks role settings items (place.next settings.batchSize) origin := by
  -- The link stands in front of a chunk.
  obtain ⟨rfl, sends, empty, same⟩ := speaks
  -- The chunk that comes next is written.
  obtain ⟨round, sent, output, still, next⟩ := sends.step usable counted
  -- A message is due as long as there is a next chunk.
  have due : party.link.isDue .send = true := by
    obtain ⟨_, progress⟩ := sends.progress
    rw [Link.isDue, progress]
  have dispatched : party.link.round.dispatch party.site.depot party.link.role .send .message none =
      (.ok (place.chunk settings.batchSize).kind, round, party.site.depot) := by
    simp only [Round.dispatch, sent]
  obtain ⟨stats, composed⟩ := composes hooks party first (fun _ => due) dispatched
  rw [output, empty, List.nil_append] at composed
  simp only [← first] at composed
  have emptied := next.onContext (fun context => { context with output := [] }) rfl rfl
  refine ⟨_, composed, rfl, emptied, rfl, ?_⟩
  refine same.trans (still.trans ?_)
  cases party.link.role <;> exact ⟨rfl, rfl, rfl, rfl, rfl, rfl, rfl, rfl, rfl, rfl, rfl⟩

/-- A link that is sending writes the chunks from its place on. -/
theorem speaks_chunks {role : Role} {settings : Settings}
    {items : List Parcel} {place : Option Place} {origin : Round Parcel} {rest : Plan}
    (first : party.plan = .call (.compose .message) :: rest)
    (speaks : party.link.Speaks role settings items place origin)
    (usable : settings.Usable)
    (counted : ∀ item ∈ items, item.chunkCount settings.batchSize < UInt32.size) :
    ∃ link, Reaches (step hooks) party
      { party with
        link
        written := party.written ++
          (place.elim [] (Place.chunks settings.batchSize)).flatMap (Round.chunkFrame settings) } ∧
      link.Speaks role settings items none origin := by
  -- The induction is on the chunks that are left.
  generalize left : place.elim [] (Place.chunks settings.batchSize) = chunks
  induction chunks generalizing place party with
  | nil =>
    cases place with
    | none =>
      -- Nothing is left to be said.
      refine ⟨party.link, ?_, speaks⟩
      rw [List.flatMap_nil, List.append_nil]
      exact Reaches.refl _
    | some place =>
      rw [Option.elim_some, Place.chunks_eq speaks.sends.progress.1] at left
      cases left
  | cons chunk chunks ih =>
    cases place with
    | none => cases left
    | some place =>
      rw [Option.elim_some, Place.chunks_eq speaks.sends.progress.1] at left
      obtain ⟨rfl, others⟩ := List.cons.inj left
      -- One chunk goes out, and the others are said from there.
      obtain ⟨link, wrote, next⟩ := speaks_chunk hooks party first speaks usable counted
      obtain ⟨last, finished, done⟩ := ih
        { party with
          link
          written := party.written ++
            Round.chunkFrame settings (place.chunk settings.batchSize) } first next others
      refine ⟨last, wrote.trans ?_, done⟩
      rw [List.flatMap_cons, ← List.append_assoc]
      exact finished

/-- Once there are no more chunks, the message counts as sent. -/
theorem speaks_end {role : Role} {settings : Settings} {items : List Parcel}
    {origin : Round Parcel} {rest : Plan} (silent : hooks.Silent)
    (first : party.plan = .call (.compose .message) :: rest)
    (speaks : party.link.Speaks role settings items none origin) :
    ∃ link site, Reaches (step hooks) party { party with plan := rest, link, site } ∧
      link.Speaks role settings items none origin ∧ site.depot = party.site.depot := by
  -- Nothing is due any more.
  have idle : party.link.isDue .send = false := speaks.sends.progress
  have complete : Call.step hooks .pending (.compose .message) party.link party.site =
      some (.conclude .send .message, party.link, party.site) :=
    congrArg some (if_pos ⟨rfl, idle⟩)
  have moved := step_call first rfl complete rfl
  obtain ⟨stats, site, concluded, depot⟩ := concludes_silent hooks
    { party with plan := .call (.conclude .send .message) :: rest } silent rfl
  exact ⟨_, site, Reaches.head moved concluded, speaks.raise stats _, depot⟩

/-- A party that has announced some parcels writes their chunks. -/
theorem speaks_message {role : Role} {settings : Settings} {items : List Parcel} {place : Place}
    {origin : Round Parcel} {rest : Plan} (silent : hooks.Silent)
    (first : party.plan = role.opens .send .message :: rest)
    (speaks : party.link.Speaks role settings items (some place) origin)
    (usable : settings.Usable)
    (counted : ∀ item ∈ items, item.chunkCount settings.batchSize < UInt32.size) :
    ∃ link site, Reaches (step hooks) party
      { party with
        plan := rest, link, site
        written := party.written ++
          (place.chunks settings.batchSize).flatMap (Round.chunkFrame settings) } ∧
      link.Speaks role settings items none origin ∧ site.depot = party.site.depot := by
  -- The message is due, so the phase that opens is the one for messages.
  have due : party.link.duePhase .send = .message := by
    rw [Link.duePhase, Link.isDue, speaks.sends.progress.2]
    rfl
  have opened := opens hooks party first due
  obtain ⟨played, sends, empty, same⟩ := speaks
  obtain ⟨link, wrote, complete⟩ := speaks_chunks hooks { party with
    plan := .call (.compose .message) :: rest
    link := { party.link with state := .ofPhase .message } } rfl ⟨played, sends, empty, same⟩ usable
    counted
  obtain ⟨last, site, ended, done, depot⟩ := speaks_end hooks { party with
    plan := .call (.compose .message) :: rest, link
    written := party.written ++
      (place.chunks settings.batchSize).flatMap (Round.chunkFrame settings) } silent rfl complete
  exact ⟨last, site, opened.trans (wrote.trans ended), done, depot⟩

/-- A party whose parcels are ready writes all of them, after a header that announces them. -/
theorem speaks {role : Role} {settings : Settings} {items : List Parcel} {rest : Plan}
    (silent : hooks.Silent) (first : party.plan = role.exchange .send ++ rest)
    (ready : party.link.Ready role settings items) (usable : settings.Usable)
    (counts : settings.Counts items) (answered : party.HeadersSent hooks) :
    ∃ link site bytes, Reaches (step hooks) party
      { party with plan := rest, link, site, written := party.written ++ bytes } ∧
      Transmits settings party.link.round.context.identity items bytes ∧
      link.Speaks role settings items none party.link.round ∧ site.depot = party.site.depot := by
  -- No message is under way, so the phase that opens is the one for headers.
  have due : party.link.duePhase .send = .header := by
    rw [Link.duePhase, Link.isDue, ready.idle]
    rfl
  have opened := opens hooks party first due
  have starts : ({ party.link with state := .ofPhase .header } : Link Parcel).Ready role settings
      items := ⟨ready.played, ready.configured, ready.clear, ready.current, ready.carried,
        ready.empty, ready.idle⟩
  obtain ⟨link, site, header, wrote, announces, countable, counted, fits, speaks, depot⟩ :=
    speaks_header hooks _ silent rfl starts usable.checked counts (answered.later opened)
  -- Whether there is a message to write depends on whether there are parcels.
  have decided := ifDue hooks { party with
    plan := .ifDue .send :: role.opens .send .message :: rest, link, site
    written := party.written ++ Round.headerFrame settings header } rfl
  have reached := opened.trans (wrote.trans decided)
  have frames := Place.chunks_first settings.batchSize items
  cases start : Place.first items with
  | none =>
    -- There is only a header to write.
    rw [start] at speaks frames
    have idle : link.isDue .send = false := speaks.sends.progress
    rw [idle] at reached
    refine ⟨link, site, _, reached, ⟨header, announces, countable, counted, fits, ?_⟩, speaks, depot⟩
    rw [← frames]
    exact (List.append_nil _).symm
  | some place =>
    rw [start] at speaks frames
    have active : link.isDue .send = true := by
      rw [Link.isDue, speaks.sends.progress.2]
    rw [active] at reached
    obtain ⟨last, store, ended, done, stored⟩ := speaks_message hooks { party with
      plan := role.opens .send .message :: rest, link, site
      written := party.written ++ Round.headerFrame settings header } silent rfl speaks usable
      counted
    refine ⟨last, store, _, reached.trans ?_,
      ⟨header, announces, countable, counted, fits, rfl⟩, done, stored.trans depot⟩
    rw [← frames, ← List.append_assoc]
    exact ended

end Party

end SentinelRounds
