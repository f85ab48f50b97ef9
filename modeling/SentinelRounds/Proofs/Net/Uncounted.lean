import SentinelRounds.Proofs.Net.Rounds
import SentinelRounds.Proofs.Round.Actions
import SentinelRounds.Proofs.Round.Wrapping

/-! Messages that a header announces without counting them: only the header is ever sent, and the
other end records a fault. -/

namespace SentinelRounds

/-- A header that counts none of the parcels it announces is refused. -/
theorem Header.Announces.check_uncounted {batch : Nat} {sender : Identity} {items : List Parcel}
    {header : Header} (announces : header.Announces batch sender items)
    (uncounted : header.itemsCount = 0) (some : items ≠ []) :
    header.check = .error (.contract (.countMismatch 0 items.length)) := by
  -- The header has an entry for every parcel.
  have length : header.items.length = items.length := by
    rw [announces.items, List.length_map]
  -- The count is compared with the number of items before these are looked at.
  have differs : header.itemsCount.toNat ≠ header.items.length := by
    rw [uncounted, length]
    exact fun same => some (List.length_eq_zero_iff.mp same.symm)
  have current : ¬ header.version ≠ protocolVersion := fun other => other announces.version
  rw [Header.check, if_neg current, if_pos differs, uncounted, length]

/-- A header that is refused is recorded as a fault, and leaves the depot alone. -/
theorem Round.receiveHeader_refused {δ ι : Type} [Depot δ ι] (round : Round ι) (depot : δ)
    (role : Role) {header : Header} {fault : RoundFault} (refused : header.check = .error fault)
    (countable : (round.context.settings.encoding.encode Header.schema header).length <
      UInt64.size) :
    let frame := round.context.settings.encoding.encode Header.schema header
    round.fatality depot role frame = none ∧
      round.receiveHeader depot role frame = (round.fault role fault, depot) := by
  -- The header is decoded as it was encoded, and only then fails its check.
  intro frame
  have decoded := Encoding.decode_encode Header.sound_schema _ countable
  have read : readHeader round.context.settings.encoding frame = .error fault := by
    rw [readHeader, decoded]
    simp only [refused]
  rw [fatality, receiveHeader, read]
  exact ⟨rfl, rfl⟩

namespace Party

/-- No errand is added on the way. -/
theorem errands_nil {δ ι : Type} [Transferable ι] [Reversible ι] [Depot δ ι] {hooks : Hooks ι}
    {party after : Party δ ι} (reached : Reaches (step hooks) party after)
    (none : party.errands = []) : after.errands = [] := by
  -- What holds of one step holds of all that are taken.
  refine @Reaches.invariant _ _ (fun party => party.errands = []) ?_ _ _ reached none
  intro before after none moved
  obtain ⟨plan, errands, link, site, arriving, written, fault⟩ := before
  simp only at none
  subst none
  cases plan with
  | nil => cases moved
  | cons task rest =>
    -- What is answered and done leaves the errands alone, unless it drops them.
    simp only [step, Option.map_eq_some_iff] at moved
    obtain ⟨⟨progress, link, site⟩, _, rfl⟩ := moved
    have kept : ∀ other : Party δ ι, other.errands = [] → (other.goOn progress).errands = [] := by
      intro other none
      cases progress with
      | going plan => exact none
      | failed fault => rfl
      | lost => rfl
    refine kept _ ?_
    simp only [answer]
    split <;> rfl

section

variable {δ : Type} [Depot δ Parcel] (hooks : Hooks Parcel) (party : Party δ Parcel)

/-- A party whose message is over as soon as it is announced writes the header and goes on. -/
theorem speaks_only_header {role : Role} {kind : Markup} {after : Round Parcel} {rest : Plan}
    (silent : hooks.Silent) (first : party.plan = role.exchange .send ++ rest)
    (played : party.link.role = role) (idle : party.link.round.context.sending.active = false)
    (sent : party.link.round.sendHeader role = (.ok kind, after))
    (silenced : after.context.sending.active = false) :
    ∃ link site, Reaches (step hooks) party
        { party with plan := rest, link, site, written := party.written ++ after.context.output } ∧
      link.role = role ∧ link.round = (after.onContext fun context =>
        { context with output := [] }).onContext fun context => context.raise .headerSent := by
  -- The role of the plan is that of the link.
  subst played
  -- No message is under way, so the phase that opens is the one for headers.
  have due : party.link.duePhase .send = .header := by
    rw [Link.duePhase, Link.isDue, idle]
    rfl
  have opened := opens hooks party first due
  have dispatched : party.link.round.dispatch party.site.depot party.link.role .send .header none =
      (.ok kind, after, party.site.depot) := by
    simp only [Round.dispatch, sent]
  -- The header goes to the socket whole.
  obtain ⟨stats, composed⟩ := composes hooks { party with
    plan := .call (.compose .header) :: .ifDue .send :: party.link.role.opens .send .message :: rest
    link := { party.link with state := .ofPhase .header } } rfl (fun other => by cases other)
    dispatched
  obtain ⟨more, site, concluded, _⟩ := concludes_silent hooks { party with
    plan := .call (.conclude .send .header) :: .ifDue .send ::
      party.link.role.opens .send .message :: rest
    link := { party.link with
      state := .ofPhase .header, stats
      round := after.onContext fun context => { context with output := [] } }
    written := party.written ++ after.context.output } silent rfl
  obtain ⟨link, made⟩ : ∃ link : Link Parcel, link = { party.link with
      state := .ofPhase .header, stats := more
      round := (after.onContext fun context => { context with output := [] }).onContext
        fun context => context.raise .headerSent } := ⟨_, rfl⟩
  -- Nothing is due after it.
  have decided := ifDue hooks { party with
    plan := .ifDue .send :: party.link.role.opens .send .message :: rest, link, site
    written := party.written ++ after.context.output } rfl
  have quiet : link.isDue .send = false := by
    rw [made]
    exact silenced
  rw [quiet, made] at decided
  exact ⟨_, site, opened.trans (composed.trans (concluded.trans decided)), rfl, rfl⟩

/--
A party with parcels whose number wraps around to zero writes a header that announces them, and then
goes on as if it had nothing to send.
-/
theorem speaks_uncounted {role : Role} {settings : Settings} {items : List Parcel} {kind : Markup}
    {after : Round Parcel} {rest : Plan} (silent : hooks.Silent)
    (first : party.plan = role.exchange .send ++ rest)
    (ready : party.link.Ready role settings items) (positive : 0 < settings.batchSize)
    (wraps : UInt32.ofNat items.length = 0)
    (sent : party.link.round.sendHeader role = (.ok kind, after)) :
    ∃ link site header, Reaches (step hooks) party
        { party with
          plan := rest, link, site
          written := party.written ++ Round.headerFrame settings header } ∧
      header.Announces settings.batchSize party.link.round.context.identity items ∧
      header.itemsCount = 0 ∧
      (Round.headerFrame settings header).length ≤ settings.headerCapacity ∧
      link.role = role ∧ Round.SameReceiving role party.link.round link.round := by
  -- The header is all that goes out.
  obtain ⟨played, rfl, clear, current, rfl, empty, idle⟩ := ready
  obtain ⟨header, announces, uncounted, _, fits, _, output, same, silenced⟩ :=
    Round.sendHeader_uncounted clear positive current wraps sent
  obtain ⟨link, site, wrote, kept, round⟩ :=
    speaks_only_header hooks party silent first played idle sent silenced
  -- There was no output before the header.
  rw [output, empty, List.nil_append] at wrote
  refine ⟨link, site, header, wrote, announces, uncounted, fits, kept, same.trans ?_⟩
  rw [round]
  cases role <;> exact ⟨rfl, rfl, rfl, rfl, rfl, rfl, rfl, rfl, rfl, rfl, rfl⟩

end

/-- The round of a role once it has recorded the fault of a header, and its hooks have run. -/
def refusing (hooks : Hooks Parcel) (role : Role) (fault : RoundFault) (round : Round Parcel) :
    Round Parcel :=
  let faulted := round.fault role fault
  (Action.applyAll (hooks.actions (.completed .receive .header) faulted) role faulted).onContext
    fun context => context.raise .headerReceived

/-- No hook makes a message due that a fault has cut off. -/
theorem idle_refusing (hooks : Hooks Parcel) (role : Role) (fault : RoundFault)
    (round : Round Parcel) : (refusing hooks role fault round).context.receiving.active = false :=
  (Action.spared_applyAll _ role _).idle (by cases role <;> rfl)

section

variable (hooks : Hooks Parcel) (party : Party MemoryDepot Parcel) {receiver sender : Settings}
  {role : Role} {header : Header} {fault : RoundFault} {more : Bytes} {rest : Plan}

/-- A party that reads a header which it has to refuse records the fault, and its hooks run. -/
theorem hears_refused_header (first : party.plan = role.opens .receive .header :: rest)
    (ready : party.link.Open role receiver) (hears : receiver.Hears sender)
    (fits : (Round.headerFrame sender header).length ≤ sender.headerCapacity)
    (refused : header.check = .error fault)
    (ahead : Ahead receiver (Round.headerFrame sender header ++ more) party.link party.arriving) :
    ∃ link site arriving, ∃ intake : Intake, Reaches (step hooks) party
        { party with plan := rest, link, site, arriving } ∧ link.role = role ∧
      link.round = refusing hooks role fault
        (party.link.round.onContext fun context => { context with intake }) := by
  -- No message is due, so the call is for a header.
  obtain ⟨rfl, configured, clear, idle⟩ := ready
  have due : party.link.duePhase .receive = .header := by
    rw [Link.duePhase, Link.isDue, idle]
    rfl
  have opened := opens hooks party first due
  obtain ⟨filled, waiting⟩ := ahead
  obtain ⟨intake, stats, arriving, fetched, _⟩ := fetches_sealed hooks { party with
    plan := .call (.search .header []) :: rest
    link := { party.link with state := .ofPhase .header } } hears rfl rfl fits ⟨filled, waiting⟩
  -- The content of the frame is short enough to be counted in words.
  have content := Escape.length_le_length_encode sender.runLength
    (sender.encoding.encode Header.schema header)
  have size := hears.addressable
  have countable : (sender.encoding.encode Header.schema header).length < UInt64.size := by
    simp only [Round.headerFrame, Writer.sealed, Settings.writer, List.length_append] at fits
    omega
  have same : sender.encoding = party.link.round.context.settings.encoding := by
    rw [configured, hears.encoding]
  rw [same] at countable fetched
  -- The round that the header is handed to differs from the first one in its intake only.
  obtain ⟨returned, received⟩ := Round.receiveHeader_refused
    (party.link.round.onContext fun context => { context with intake }) party.site.depot
    party.link.role refused countable
  obtain ⟨others, site, absorbed, _⟩ := absorbs_header hooks { party with
    plan := .call (.absorb .header
      ⟨party.link.round.context.settings.encoding.encode Header.schema header, .final⟩) :: rest
    link := Link.fed { party.link with state := .ofPhase .header } intake stats, arriving } rfl
    returned received
  exact ⟨_, site, arriving, intake, opened.trans (fetched.trans absorbed), rfl, rfl⟩

/-- A party that has refused a header goes on as if no message had been announced. -/
theorem hears_refused (first : party.plan = role.exchange .receive ++ rest)
    (ready : party.link.Open role receiver) (hears : receiver.Hears sender)
    (fits : (Round.headerFrame sender header).length ≤ sender.headerCapacity)
    (refused : header.check = .error fault)
    (ahead : Ahead receiver (Round.headerFrame sender header ++ more) party.link party.arriving) :
    ∃ link site arriving, ∃ intake : Intake, Reaches (step hooks) party
        { party with plan := rest, link, site, arriving } ∧ link.role = role ∧
      link.round = refusing hooks role fault
        (party.link.round.onContext fun context => { context with intake }) := by
  -- The header is read first, and then it is seen that nothing follows it.
  obtain ⟨link, site, arriving, intake, reached, played, round⟩ :=
    hears_refused_header hooks party first ready hears fits refused ahead
  have decided := ifDue hooks { party with
    plan := .ifDue .receive :: role.opens .receive .message :: rest, link, site, arriving } rfl
  -- A fault halts the round, so its message is not due.
  have idle : link.isDue .receive = false := by
    rw [Link.isDue, round]
    exact idle_refusing hooks role fault _
  rw [idle] at decided
  exact ⟨link, site, arriving, intake, reached.trans decided, played, round⟩

/-- A party that waits for a header when nothing is left to arrive comes to its end. -/
theorem starves (first : party.plan = role.exchange .receive ++ rest)
    (ready : party.link.Open role receiver) (room : 0 < receiver.headerCapacity)
    (ahead : Ahead receiver [] party.link party.arriving) :
    ∃ last, Reaches (step hooks) party last ∧ last.step hooks = none ∧
      last.fault = some .closed := by
  -- No message is due, so the call is for a header.
  obtain ⟨rfl, configured, clear, idle⟩ := ready
  have due : party.link.duePhase .receive = .header := by
    rw [Link.duePhase, Link.isDue, idle]
    rfl
  have opened := opens hooks party first due
  obtain ⟨filled, waiting⟩ := ahead
  -- There is no run in a stream without bytes.
  have located : receiver.locate .header [] = none := by
    cases found : receiver.locate .header [] with
    | none => rfl
    | some place =>
      obtain ⟨_, within⟩ := Settings.locate_bounds found
      rw [List.length_nil] at within
      omega
  have outcome : receiver.outcome .header [] = .error .closed := by
    rw [Settings.outcome, located]
    exact if_neg (Nat.not_le_of_lt room)
  obtain ⟨link, arriving, fetched⟩ := fetches_fault hooks { party with
    plan := .call (.search .header []) :: .ifDue .receive ::
      party.link.role.opens .receive .message :: rest
    link := { party.link with state := .ofPhase .header } } rfl ⟨filled, waiting⟩ outcome
  obtain ⟨last, halted⟩ := halts hooks { party with
    plan := .call (.halt .closed) :: .ifDue .receive ::
      party.link.role.opens .receive .message :: rest
    link, arriving } rfl
  exact ⟨_, opened.trans (fetched.trans halted), step_over hooks rfl rfl, rfl⟩

end

end Party

end SentinelRounds
