import SentinelRounds.Proofs.Net.Speaking
import SentinelRounds.Proofs.Round.Header
import SentinelRounds.Proofs.Round.Receiving

/-! One party receives: what another party has written is read back, in whatever pieces it arrives. -/

namespace SentinelRounds

namespace Settings

/-- Settings of two ends under which the first can read what the second writes; batches may differ. -/
structure Hears (receiver sender : Settings) : Prop where
  checked : sender.check = .ok ()
  runLength : receiver.runLength = sender.runLength
  encoding : receiver.encoding = sender.encoding
  capacity : ∀ phase, sender.capacity phase ≤ receiver.capacity phase
  /-- The sizes of headers can be counted in one word. -/
  addressable : sender.headerCapacity < UInt64.size

/-- The frame that a stream begins with is read, whatever follows it. -/
theorem outcome_sealed {receiver sender : Settings} (hears : receiver.Hears sender) (phase : Phase)
    {content : Bytes} {kind : Markup} (closes : kind.closes = true)
    (fits : ((sender.writer phase).sealed content kind).length ≤ sender.capacity phase)
    (rest : Bytes) :
    receiver.outcome phase ((sender.writer phase).sealed content kind ++ rest) =
        .ok ⟨content, kind⟩ ∧
      ((sender.writer phase).sealed content kind ++ rest).drop
        (receiver.taken phase ((sender.writer phase).sealed content kind ++ rest)) = rest := by
  -- Both ends have runs of the same length.
  obtain ⟨regular, _, _, _⟩ := check_ok hears.checked
  have run : max receiver.runLength 1 = sender.runLength := by
    rw [hears.runLength]
    omega
  -- The first full run is the terminator, and the receiver has room for the frame.
  have located : receiver.locate phase ((sender.writer phase).sealed content kind ++ rest) =
      some (kind, ((sender.writer phase).sealed content kind).length) := by
    have found : Scanner.firstRun? sender.runLength
        ((sender.writer phase).sealed content kind ++ rest) =
          some (kind, ((sender.writer phase).sealed content kind).length) :=
      Writer.firstRun?_sealed (sender.writer phase) regular content closes rest
    rw [locate, run, found, Option.filter_some]
    exact if_pos (decide_eq_true (Nat.le_trans fits (hears.capacity phase)))
  have front := Writer.take_sealed (sender.writer phase) content kind rest
  -- What stands before the terminator is the escaped content.
  refine ⟨?_, ?_⟩
  · rw [outcome_of_located located, run, hears.runLength]
    rw [writer] at front ⊢
    simp only at front ⊢
    rw [front, Escape.decode_encode]
  · rw [taken, located]
    exact List.drop_left

end Settings

/-- Hooks that set nothing but the mode when they see a header received. -/
def Hooks.Lenient (hooks : Hooks Parcel) (role : Role) (header : Header) : Prop :=
  ∀ round : Round Parcel, round.incomingHeader role = header →
    ∃ mode, Action.applyAll (hooks.actions (.completed .receive .header) round) role round =
      round.onContext fun context => { context with synchronic := mode }

/-- A round once the hooks of a received message have run, if there was a message at all. -/
def Hooks.settled (hooks : Hooks Parcel) (role : Role) (items : List Parcel)
    (round : Round Parcel) : Round Parcel :=
  if items = [] then round
  else (Action.applyAll (hooks.actions (.completed .receive .message) round) role round).onContext
    fun context => context.raise .messageReceived

/-- No action touches what has been received and not been read. -/
theorem Action.intake_applyAll (actions : List (Action Parcel)) (role : Role)
    (round : Round Parcel) :
    (Action.applyAll actions role round).context.intake = round.context.intake := by
  -- The actions are applied one after the other.
  induction actions generalizing round with
  | nil => rfl
  | cons action actions ih =>
    -- Actions change the counters and the messages.
    have first : (action.apply role round).context.intake = round.context.intake := by
      cases action <;> cases role <;> first
        | rfl
        | (simp only [Action.apply]; split <;> rfl)
    exact (ih (action.apply role round)).trans first

namespace Link

/-- A link on which a message can be received. -/
structure Open (role : Role) (settings : Settings) (link : Link Parcel) : Prop where
  played : link.role = role
  configured : link.round.context.settings = settings
  clear : link.round.context.Clear
  idle : link.round.context.receiving.active = false

/--
A link that is receiving some parcels and stands at a place among them, with the round it began to
receive in.
-/
structure Listens (role : Role) (batch : Nat) (sender : Identity) (items : List Parcel)
    (place : Option Place) (origin : Round Parcel) (header : Header) (link : Link Parcel) : Prop where
  played : link.role = role
  receives : link.round.Receives role batch sender items place
  same : Round.SameSending role origin link.round
  headed : link.round.incomingHeader role = header

end Link

namespace Party

variable (hooks : Hooks Parcel) (party : Party MemoryDepot Parcel)

/-- A frame that another end has written is fetched, and only what follows it is then ahead. -/
theorem fetches_sealed {receiver sender : Settings} (hears : receiver.Hears sender) {phase : Phase}
    {content more : Bytes} {kind : Markup} {rest : Plan}
    (first : party.plan = .call (.search phase []) :: rest) (closes : kind.closes = true)
    (fits : ((sender.writer phase).sealed content kind).length ≤ sender.capacity phase)
    (ahead : Ahead receiver ((sender.writer phase).sealed content kind ++ more) party.link
      party.arriving) :
    ∃ intake stats arriving, Reaches (step hooks) party
      { party with
        plan := .call (.absorb phase ⟨content, kind⟩) :: rest
        link := party.link.fed intake stats
        arriving } ∧ Ahead receiver more (party.link.fed intake stats) arriving := by
  -- The frame is what the stream as a whole comes to.
  obtain ⟨outcome, left⟩ := Settings.outcome_sealed hears phase closes fits more
  have fetched := fetches hooks party first ahead outcome
  rwa [left] at fetched

/-- A header that is at hand is handed to the round, the hooks run, and its signal is set. -/
theorem absorbs_header {inbound : Round.Inbound} {rest : Plan} {round : Round Parcel}
    {store : MemoryDepot} (first : party.plan = .call (.absorb .header inbound) :: rest)
    (returned : party.link.round.fatality party.site.depot party.link.role inbound.frame = none)
    (received : party.link.round.receiveHeader party.site.depot party.link.role inbound.frame =
      (round, store)) :
    ∃ stats site, Reaches (step hooks) party
      { party with
        plan := rest
        link := { party.link with
          stats
          round := (Action.applyAll (hooks.actions (.completed .receive .header) round)
            party.link.role round).onContext fun context => context.raise .headerReceived }
        site } ∧ site.depot = store := by
  -- The step is taken on the parts of the party.
  obtain ⟨_, errands, link, site, arriving, written, fault⟩ := party
  simp only at first returned received
  subst first
  -- The round receives the frame, and its hooks run afterwards.
  have taken : Call.take hooks .header inbound link site =
      Call.report hooks .receive .header
        { link with round, stats := link.stats.received .header } { site with depot := store } := by
    simp only [Call.take, Round.dispatch, returned, received]
  have journal : (hooks.run (.completed .receive .header) link.role round
      { site with depot := store }).2.depot = store := by
    unfold Hooks.run
    split <;> rfl
  exact ⟨_, _, Reaches.head (step_call rfl rfl (congrArg some taken) rfl) <|
    Reaches.head (step_call rfl rfl rfl rfl) (Reaches.refl _), journal⟩

/-- A chunk that is at hand is handed to the round. -/
theorem absorbs_chunk {inbound : Round.Inbound} {rest : Plan} {round : Round Parcel}
    {store : MemoryDepot} (first : party.plan = .call (.absorb .message inbound) :: rest)
    (received : party.link.round.receiveMessage party.site.depot party.link.role inbound.frame
      inbound.kind = (round, store)) :
    ∃ stats, Reaches (step hooks) party
      { party with
        plan := .call .next :: rest
        link := { party.link with round, stats }
        site := { party.site with depot := store } } := by
  -- The step is taken on the parts of the party.
  obtain ⟨_, errands, link, site, arriving, written, fault⟩ := party
  simp only at first received
  subst first
  -- A chunk has no hooks.
  have taken : Call.take hooks .message inbound link site =
      (.next, { link with round, stats := link.stats.received .message },
        { site with depot := store }) := by
    simp only [Call.take, Round.dispatch, received]
  exact ⟨_, Reaches.head (step_call rfl rfl (congrArg some taken) rfl) (Reaches.refl _)⟩

/-- A header that another end has sent is accepted, and the parcels it announces are expected. -/
theorem hears_header {receiver sender : Settings} {role : Role} {header : Header}
    {identity : Identity} {items : List Parcel} {more : Bytes} {rest : Plan}
    (first : party.plan = role.opens .receive .header :: rest)
    (ready : party.link.Open role receiver) (hears : receiver.Hears sender)
    (lenient : hooks.Lenient role header)
    (announces : header.Announces sender.batchSize identity items)
    (counted : ∀ item ∈ items, item.chunkCount sender.batchSize < UInt32.size)
    (fits : (Round.headerFrame sender header).length ≤ sender.headerCapacity)
    (keyed : ∀ item ∈ items, item.key ≠ "")
    (stored : ∀ item ∈ items, item.body.length < allocationBound)
    (countable : items.length < UInt32.size) (welcomes : party.site.depot.Welcomes identity)
    (ahead : Ahead receiver (Round.headerFrame sender header ++ more) party.link party.arriving) :
    ∃ link site arriving, Reaches (step hooks) party
      { party with plan := rest, link, site, arriving } ∧
      Ahead receiver more link arriving ∧
      link.Listens role sender.batchSize identity items (Place.first items) party.link.round
        header ∧
      site.depot.targets.contains identity.id = true ∧
      ∀ key, site.depot.get? identity.id key = party.site.depot.get? identity.id key := by
  -- No message is due, so the call is for a header.
  obtain ⟨played, configured, clear, idle⟩ := ready
  have due : party.link.duePhase .receive = .header := by
    rw [Link.duePhase, Link.isDue, idle]
    rfl
  have opened := opens hooks party first due
  obtain ⟨filled, waiting⟩ := ahead
  obtain ⟨intake, stats, arriving, fetched, left⟩ := fetches_sealed hooks { party with
    plan := .call (.search .header []) :: rest
    link := { party.link with state := .ofPhase .header } } hears rfl rfl fits ⟨filled, waiting⟩
  -- The round that the header is handed to differs from the first one in its intake only.
  obtain ⟨round, named⟩ : ∃ round, round = (Link.fed { party.link with state := .ofPhase .header }
    intake stats).round := ⟨_, rfl⟩
  have same : Round.SameSending role party.link.round round := by
    rw [named]
    cases role <;> exact ⟨rfl, rfl, rfl, rfl, rfl, rfl, rfl, rfl, rfl⟩
  have read : Round.readHeader round.context.settings.encoding
      (sender.encoding.encode Header.schema header) = .ok header := by
    have content := Escape.length_le_length_encode sender.runLength
      (sender.encoding.encode Header.schema header)
    have size := hears.addressable
    simp only [Round.headerFrame, Writer.sealed, Settings.writer, List.length_append] at fits
    rw [same.settings, configured, hears.encoding]
    exact Round.readHeader_encode (by omega) (announces.check_eq keyed counted countable)
  obtain ⟨returned, accepted, store, received, contained, kept, receives, frame, headed, unread⟩ :=
    Round.receiveHeader_announced role read announces countable stored (same.clear clear) welcomes
  subst named played
  obtain ⟨others, site, absorbed, rfl⟩ := absorbs_header hooks { party with
    plan := .call (.absorb .header ⟨sender.encoding.encode Header.schema header, .final⟩) :: rest
    link := Link.fed { party.link with state := .ofPhase .header } intake stats, arriving } rfl
    returned received
  obtain ⟨mode, hooked⟩ := lenient accepted headed
  have expects := (receives.onContext (fun context => { context with synchronic := mode })
    rfl rfl id).onContext (fun context => context.raise .headerReceived) rfl rfl id
  have played : (Link.fed { party.link with state := .ofPhase .header } intake stats).role =
      party.link.role := rfl
  simp only [played, hooked] at absorbed
  refine ⟨_, site, arriving, opened.trans (fetched.trans absorbed), ?_, ⟨rfl, expects, ?_, ?_⟩,
    contained, kept⟩
  · exact left.congr unread
  · refine same.trans (frame.trans ?_)
    cases party.link.role <;> exact ⟨rfl, rfl, rfl, rfl, rfl, rfl, rfl, rfl, rfl⟩
  · rw [← headed]
    cases party.link.role <;> rfl

/-- The next chunk that another end has sent brings the link to the place after it. -/
theorem hears_chunk {receiver sender : Settings} {role : Role} {header : Header}
    {identity : Identity} {items : List Parcel} {place : Place} {origin : Round Parcel}
    {start : MemoryDepot} {more : Bytes} {rest : Plan}
    (first : party.plan = .call .next :: rest) (hears : receiver.Hears sender)
    (usable : sender.Usable)
    (listens : party.link.Listens role sender.batchSize identity items (some place) origin header)
    (counted : ∀ item ∈ items, item.chunkCount sender.batchSize < UInt32.size)
    (contained : start.targets.contains identity.id = true)
    (stored : party.site.depot = start.mergeAll identity place.before)
    (ahead : Ahead receiver
      (Round.chunkFrame sender (place.chunk sender.batchSize) ++ more) party.link party.arriving) :
    ∃ link site arriving, Reaches (step hooks) party { party with link, site, arriving } ∧
      Ahead receiver more link arriving ∧
      link.Listens role sender.batchSize identity items (place.next sender.batchSize) origin
        header ∧
      site.depot =
        start.mergeAll identity ((place.next sender.batchSize).elim items Place.before) := by
  -- The link stands in front of a chunk.
  obtain ⟨rfl, receives, same, headed⟩ := listens
  obtain ⟨_, positive, _, _⟩ := Settings.check_ok hears.checked
  -- A message is due as long as there is a next chunk.
  have due : party.link.isDue .receive = true := by
    obtain ⟨_, _, receiving⟩ := receives.progress
    rw [Link.isDue, receiving]
  have searches : Call.step hooks .pending .next party.link party.site =
      some (.search .message [], party.link, party.site) := by
    simp only [Call.step, due, if_true]
  have moved := step_call first rfl searches rfl
  -- The frame of the chunk fits the sender's buffer, and so the receiver's.
  have closes := place.parcel.chunk_closes sender.batchSize place.index
  have fits := Round.length_chunkFrame_le usable.exactly place.parcel place.index
  obtain ⟨intake, stats, arriving, fetched, left⟩ := fetches_sealed hooks { party with
    plan := .call (.search .message []) :: rest } hears rfl closes fits ahead
  -- Fetching changes nothing but the intake.
  have still := receives.onContext (fun context => { context with intake }) rfl rfl id
  obtain ⟨round, received, next, frame, answered, unread⟩ :=
    still.step positive counted contained stored
  obtain ⟨_, absorbed⟩ := absorbs_chunk hooks { party with
    plan := .call (.absorb .message (place.chunk sender.batchSize)) :: rest
    link := party.link.fed intake stats, arriving } rfl received
  rw [← first] at absorbed
  refine ⟨_, _, arriving, Reaches.head moved (fetched.trans absorbed), left.congr unread,
    ⟨rfl, next, ?_, ?_⟩, rfl⟩
  · have fed : Round.SameSending party.link.role party.link.round
        (party.link.round.onContext fun context => { context with intake }) := by
      cases party.link.role <;> exact ⟨rfl, rfl, rfl, rfl, rfl, rfl, rfl, rfl, rfl⟩
    exact same.trans (fed.trans frame)
  · rw [← headed]
    refine answered.trans ?_
    cases party.link.role <;> rfl

/-- The chunks from a place on bring the link to the end of the message. -/
theorem hears_chunks {receiver sender : Settings} {role : Role} {header : Header}
    {identity : Identity} {items : List Parcel} {place : Option Place} {origin : Round Parcel}
    {start : MemoryDepot} {more : Bytes} {rest : Plan}
    (first : party.plan = .call .next :: rest) (hears : receiver.Hears sender)
    (usable : sender.Usable)
    (listens : party.link.Listens role sender.batchSize identity items place origin header)
    (counted : ∀ item ∈ items, item.chunkCount sender.batchSize < UInt32.size)
    (contained : start.targets.contains identity.id = true)
    (stored : party.site.depot = start.mergeAll identity (place.elim items Place.before))
    (ahead : Ahead receiver ((place.elim [] (Place.chunks sender.batchSize)).flatMap
      (Round.chunkFrame sender) ++ more) party.link party.arriving) :
    ∃ link site arriving, Reaches (step hooks) party { party with link, site, arriving } ∧
      Ahead receiver more link arriving ∧
      link.Listens role sender.batchSize identity items none origin header ∧
      site.depot = start.mergeAll identity items := by
  -- The induction is on the chunks that are left.
  generalize left : place.elim [] (Place.chunks sender.batchSize) = chunks at ahead
  induction chunks generalizing place party with
  | nil =>
    cases place with
    | none =>
      -- Nothing is left to be heard.
      exact ⟨party.link, party.site, party.arriving, Reaches.refl _, ahead, listens, stored⟩
    | some place =>
      rw [Option.elim_some, Place.chunks_eq listens.receives.progress.1] at left
      cases left
  | cons chunk chunks ih =>
    cases place with
    | none => cases left
    | some place =>
      rw [Option.elim_some, Place.chunks_eq listens.receives.progress.1] at left
      obtain ⟨rfl, others⟩ := List.cons.inj left
      rw [List.flatMap_cons, List.append_assoc] at ahead
      -- One chunk is taken, and the others are heard from there.
      obtain ⟨link, site, arriving, heard, onward, next, merged⟩ :=
        hears_chunk hooks party first hears usable listens counted contained stored ahead
      obtain ⟨last, store, pieces, finished, done⟩ :=
        ih { party with link, site, arriving } first next merged others onward
      exact ⟨last, store, pieces, heard.trans finished, done⟩

/-- A party that expects some parcels receives and merges them, and then the hooks run. -/
theorem hears_message {receiver sender : Settings} {role : Role} {header : Header}
    {identity : Identity} {items : List Parcel} {place : Place} {origin : Round Parcel}
    {start : MemoryDepot} {more : Bytes} {rest : Plan}
    (first : party.plan = role.opens .receive .message :: rest) (hears : receiver.Hears sender)
    (usable : sender.Usable)
    (listens : party.link.Listens role sender.batchSize identity items (some place) origin header)
    (counted : ∀ item ∈ items, item.chunkCount sender.batchSize < UInt32.size)
    (contained : start.targets.contains identity.id = true)
    (stored : party.site.depot = start.mergeAll identity place.before)
    (ahead : Ahead receiver ((place.chunks sender.batchSize).flatMap (Round.chunkFrame sender) ++
      more) party.link party.arriving) :
    ∃ (link heard : Link Parcel) (site : Site MemoryDepot) (arriving : List Bytes),
      Reaches (step hooks) party { party with plan := rest, link, site, arriving } ∧
      Ahead receiver more link arriving ∧
      heard.Listens role sender.batchSize identity items none origin header ∧ link.role = role ∧
      link.round = (Action.applyAll (hooks.actions (.completed .receive .message) heard.round)
        role heard.round).onContext (fun context => context.raise .messageReceived) ∧
      site.depot = start.mergeAll identity items := by
  -- The message is due, so the phase that opens is the one for messages.
  have due : party.link.duePhase .receive = .message := by
    obtain ⟨_, _, receiving⟩ := listens.receives.progress
    rw [Link.duePhase, Link.isDue, receiving]
    rfl
  have opened := opens hooks party first due
  obtain ⟨played, receives, same, headed⟩ := listens
  obtain ⟨filled, waiting⟩ := ahead
  obtain ⟨heard, site, arriving, chunked, left, listens, merged⟩ := hears_chunks hooks
    { party with
      plan := .call .next :: rest
      link := { party.link with state := .ofPhase .message } } rfl hears usable
    ⟨played, receives, same, headed⟩ counted contained stored ⟨filled, waiting⟩
  -- Nothing is due any more after the last chunk.
  have idle : heard.isDue .receive = false := listens.receives.progress.2.1
  have complete : Call.step hooks .pending .next heard site =
      some (.conclude .receive .message, heard, site) := by
    simp only [Call.step, idle, Bool.false_eq_true, if_false]
  have moved : step hooks { party with plan := .call .next :: rest, link := heard, site, arriving } =
      some { party with
        plan := .call (.conclude .receive .message) :: rest, link := heard, site, arriving } :=
    step_call rfl rfl complete rfl
  obtain ⟨stats, store, concluded, kept⟩ := concludes hooks
    { party with
      plan := .call (.conclude .receive .message) :: rest, link := heard, site, arriving } rfl
  refine ⟨_, heard, store, arriving,
    opened.trans (chunked.trans (Reaches.head moved concluded)), left.congr ?_, listens,
    listens.played, ?_, kept.trans merged⟩
  · exact Action.intake_applyAll _ _ _
  · rw [← listens.played]
    rfl

/-- What another end writes for some parcels is received as these parcels, and merged. -/
theorem hears {receiver sender : Settings} {role : Role} {identity : Identity}
    {items : List Parcel} {bytes more : Bytes} {rest : Plan}
    (first : party.plan = role.exchange .receive ++ rest) (ready : party.link.Open role receiver)
    (hears : receiver.Hears sender) (usable : sender.Usable)
    (lenient : ∀ header, header.Announces sender.batchSize identity items →
      hooks.Lenient role header)
    (transmits : Transmits sender identity items bytes) (keyed : ∀ item ∈ items, item.key ≠ "")
    (stored : ∀ item ∈ items, item.body.length < allocationBound)
    (welcomes : party.site.depot.Welcomes identity)
    (ahead : Ahead receiver (bytes ++ more) party.link party.arriving) :
    ∃ (link heard : Link Parcel) (header : Header) (site : Site MemoryDepot)
      (arriving : List Bytes),
      Reaches (step hooks) party { party with plan := rest, link, site, arriving } ∧
      Ahead receiver more link arriving ∧ header.Announces sender.batchSize identity items ∧
      heard.Listens role sender.batchSize identity items none party.link.round header ∧
      link.role = role ∧ link.round = hooks.settled role items heard.round ∧
      site.depot.targets.contains identity.id = true ∧
      ∀ key, site.depot.get? identity.id key =
        (MemoryDepot.lastOf items key).or (party.site.depot.get? identity.id key) := by
  -- The header comes first, and then the chunks that it announces.
  obtain ⟨header, announces, countable, counted, fits, rfl⟩ := transmits
  rw [List.append_assoc] at ahead
  obtain ⟨link, site, arriving, headed, left, listens, contained, kept⟩ :=
    hears_header hooks party first ready hears (lenient header announces) announces counted fits
      keyed stored countable welcomes ahead
  have decided := ifDue hooks { party with
    plan := .ifDue .receive :: role.opens .receive .message :: rest, link, site, arriving } rfl
  have reached := headed.trans decided
  have frames := Place.chunks_first sender.batchSize items
  cases start : Place.first items with
  | none =>
    -- There is only a header to read.
    cases items with
    | cons parcel later => cases start
    | nil =>
      have idle : link.isDue .receive = false := listens.receives.progress.2.1
      rw [idle] at reached
      exact ⟨link, link, header, site, arriving, reached, left, announces, listens,
        listens.played, rfl, contained, kept⟩
  | some place =>
    rw [start] at listens frames
    rw [← frames] at left
    have active : link.isDue .receive = true := by
      rw [Link.isDue, listens.receives.progress.2.2]
    rw [active] at reached
    -- Nothing has been merged before the first chunk.
    have before : place.before = [] := by
      cases items with
      | nil => cases start
      | cons parcel later =>
        cases start
        rfl
    have some : items ≠ [] := by
      rintro rfl
      cases start
    have fresh : site.depot = site.depot.mergeAll identity place.before := by
      rw [before]
      rfl
    obtain ⟨last, heard, store, pieces, finished, onward, complete, played, settled, merged⟩ :=
      hears_message hooks { party with
        plan := role.opens .receive .message :: rest, link, site, arriving } rfl hears usable
        listens counted contained fresh left
    -- The peer keeps its place while its parcels are merged.
    have all := MemoryDepot.mergeAll_contained contained items
    refine ⟨last, heard, header, store, pieces, reached.trans finished, onward, announces, complete,
      played, ?_, ?_, fun key => ?_⟩
    · rw [Hooks.settled, if_neg some]
      exact settled
    · rw [merged]
      exact all.1
    · rw [merged, all.2, kept]

end Party

end SentinelRounds
