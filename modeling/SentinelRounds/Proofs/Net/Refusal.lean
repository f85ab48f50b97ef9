import SentinelRounds.Proofs.Net.Listening
import SentinelRounds.Proofs.Round.Halting
import SentinelRounds.Proofs.Round.Speaker

/-! A round that a server refuses closes on both ends. -/

namespace SentinelRounds

/-- A header with which an end closes a round and announces nothing. -/
structure Header.Closing (sender : Identity) (header : Header) : Prop where
  version : header.version = protocolVersion
  identity : header.identity = sender
  items : header.items = []
  itemsCount : header.itemsCount = 0
  close : header.close = true

/-- A header that closes a round can be answered. -/
theorem Header.Closing.check_eq {sender : Identity} {header : Header}
    (closing : header.Closing sender) : header.check = .ok () := by
  simp [check, closing.version, closing.items, closing.itemsCount, checkItems]

namespace Round

/-- Receiving a header changes no parcel in a depot. -/
theorem get?_receiveHeader (round : Round Parcel) (depot : MemoryDepot) (role : Role)
    (frame : Bytes) (id key : String) :
    (round.receiveHeader depot role frame).2.get? id key = depot.get? id key := by
  -- At most a peer is registered.
  have welcomed : ∀ identity, (welcome depot identity).2.get? id key = depot.get? id key := by
    intro identity
    have registered := depot.get?_register identity id key
    -- Registering a peer leaves the items of all peers alone.
    have same : Depot.register depot identity = depot.register identity := rfl
    simp only [welcome, same]
    split
    · rfl
    split <;> rename_i answer
    · rw [answer] at registered
      exact registered
    · rw [answer] at registered
      split <;> exact registered
  simp only [Round.receiveHeader]
  -- A fault and a refusal do not reach the depot.
  split
  · rfl
  split
  · rfl
  · rename_i header _ _ _
    have kept := welcomed header.identity
    split <;> rename_i answer <;> rw [answer] at kept <;> exact kept

/-- A round in which a header is answered with a denial or a fault is halted by it. -/
theorem halted_of_refused {role : Role} {round : Round Parcel} {depot : MemoryDepot} {frame : Bytes}
    (errors : round.context.errors = 0)
    (refused : (round.receiveHeader depot role frame).1.context.denied = true ∨
      (round.receiveHeader depot role frame).1.context.errors ≠ 0) :
    (round.receiveHeader depot role frame).1.Halted := by
  -- The cases are the answers that a header can get.
  rcases round.receiveHeader_cases depot role frame with
    ⟨base, fault, store, _, received⟩ | ⟨base, reason, store, received⟩ |
      ⟨header, base, store, fault, _, adopts, _, _, received⟩ |
      ⟨header, base, store, items, _, adopts, _, received⟩
  · rw [received]
    exact (Stopped.fault base fault).halted
  · rw [received]
    exact (Stopped.deny base reason).halted
  · -- Nor is one denied or at fault from which the round does not return.
    exfalso
    rw [received] at refused
    have denied : base.context.denied = false := adopts.denied
    have faultless : base.context.errors = 0 := adopts.errors.trans errors
    simp [denied, faultless] at refused
  · -- A header whose items are expected is neither denied nor at fault.
    exfalso
    rw [received, expect_eq] at refused
    have denied : base.context.denied = false := adopts.denied
    have faultless : base.context.errors = 0 := adopts.errors.trans errors
    cases role <;> simp [onContext, setIncoming, denied, faultless] at refused

/-- The code around a halted round leaves it halted, unless it opens the round on purpose. -/
theorem Halted.applyAll {role : Role} {actions : List (Action Parcel)}
    (unopened : .close false ∉ actions) {round : Round Parcel} (halted : round.Halted) :
    (Action.applyAll actions role round).Halted := by
  -- The actions are applied one after the other.
  induction actions generalizing round with
  | nil => exact halted
  | cons action actions ih =>
    simp only [List.mem_cons, not_or] at unopened
    apply ih unopened.2
    exact halted.act (Ne.symm unopened.1)

/-- A round with given settings in which no item is awaited. -/
structure Unanswered (settings : Settings) (round : Round Parcel) : Prop where
  configured : round.context.settings = settings
  left : round.context.receiving.left = 0

/-- Everything that is done to a round but receiving leaves it without an item that is awaited. -/
theorem Unanswered.perform {settings : Settings} {role : Role} {round : Round Parcel}
    (unanswered : round.Unanswered settings) (depot : MemoryDepot) {operation : Operation Parcel}
    (sends : ∀ phase inbound, operation ≠ .dispatch .receive phase inbound) :
    (round.perform role depot operation).2.1.Unanswered settings := by
  -- A round that sends changes nothing that only receiving uses.
  have sent : ∀ {act : Round Parcel → Except RoundFault Markup × Round Parcel},
      Outgoing role act → (act round).2.Unanswered settings := by
    intro act outgoing
    have kept := outgoing.context_eq round
    have configured := congrArg Context.settings kept
    have left := congrArg (fun context => context.receiving.left) kept
    exact ⟨configured.trans unanswered.configured, left.trans unanswered.left⟩
  cases operation with
  | read phase bytes =>
    -- Reading changes the intake only.
    simp only [Round.perform, Context.read]
    split <;> exact ⟨unanswered.configured, unanswered.left⟩
  | dispatch transit phase inbound =>
    cases transit with
    -- Receiving is excluded.
    | receive => exact absurd rfl (sends phase inbound)
    | send =>
      cases phase with
      | header => cases inbound <;> exact sent (outgoing_sendHeader role)
      | message => cases inbound <;> exact sent (outgoing_sendMessage role)
  | act action =>
    -- The hooks leave the settings and what is awaited alone.
    have spared := action.spared_apply role round
    have same := SameSpeaker.apply role action round
    exact ⟨same.settings.trans unanswered.configured, spared.left.trans unanswered.left⟩
  | reset => cases role <;> exact ⟨unanswered.configured, rfl⟩
  | _ => exact ⟨unanswered.configured, unanswered.left⟩

/-- What a closing header without items makes of a client that awaits no item. -/
theorem receiveHeader_closing {client : Round Parcel} {store : MemoryDepot} {sender : Identity}
    {header : Header} {frame : Bytes} (closing : header.Closing sender)
    (read : readHeader client.context.settings.encoding frame = .ok header)
    (left : client.context.receiving.left = 0) (idle : client.context.sending.active = false)
    (welcomes : store.Welcomes sender) :
    let ended := (client.receiveHeader store .client frame).1
    ended.Halted ∧ ended.context.receiving.left = 0 ∧ ended.responseHeader = header ∧
      ended.context.denied = header.denied := by
  -- The server welcomes the sender, so it does not deny the header for that.
  intro ended
  rw [← closing.identity] at welcomes
  obtain ⟨notice, after, answer, _, _⟩ := welcome_admitted welcomes
  -- Without a denial the items are expected, of which there are none.
  have accepted : ∀ round : Round Parcel, round.context.close = true →
      round.context.sending.active = false → round.responseHeader = header →
      let ended := round.acceptItems after .client header
      ended.Halted ∧ ended.context.receiving.left = 0 ∧ ended.responseHeader = header ∧
        ended.context.denied = false := by
    intro round closed idle known
    simp only [acceptItems, closing.items, Depot.locateAll, expect_eq, closing.itemsCount]
    exact ⟨⟨closed, rfl, idle⟩, rfl, known, rfl⟩
  have closed : (client.adopt .client header).context.close = true := by
    show (client.context.close || header.close) = true
    rw [closing.close, Bool.or_true]
  by_cases denied : header.denied = true
  · -- A denial leaves alone how many items were awaited.
    have result : ended =
        (client.adopt .client header).deny .client
          (header.notice.getD "Registration denied by server") := by
      simp only [ended, receiveHeader, read, Header.refusal, if_pos denied]
    rw [result, denied]
    exact ⟨⟨rfl, rfl, rfl⟩, left, rfl, rfl⟩
  · have undenied : header.denied = false := by simpa using denied
    rw [undenied]
    simp only [ended, receiveHeader, read, Header.refusal, undenied, answer]
    cases notice with
    | none => exact accepted _ closed idle rfl
    | some notice => exact accepted _ closed idle rfl

/--
The header that a halted round sends can be read at the other end, where it says that the round is
closed, how many faults there were, and whether it was denied.
-/
theorem Halted.sendHeader_closing {settings : Settings}
    (addressable : settings.headerCapacity < UInt64.size) {role : Role} {kind : Markup}
    {round after : Round Parcel} (halted : round.Halted)
    (configured : round.context.settings = settings) (silent : round.context.output = [])
    (version : (round.outgoingHeader role).version = protocolVersion)
    (sent : round.sendHeader role = (.ok kind, after)) :
    let header := after.outgoingHeader role
    ∃ frame, after.context.output = (settings.writer .header).sealed frame .final ∧
      (settings.check = .ok () →
        settings.outcome .header after.context.output = .ok ⟨frame, .final⟩) ∧
      readHeader settings.encoding frame = .ok header ∧
      header.Closing round.context.identity ∧ header.errors = after.context.errors ∧
      header.denied = after.context.denied ∧ after.Halted := by
  -- What is sent is the header of a round that is closing.
  intro header
  obtain ⟨fits, closed⟩ := halted.sendHeader_ok sent
  rw [configured] at fits closed
  have stated : header = headerFor round.context (round.outgoingHeader role) [] := by
    simp only [header, closed]
    cases role <;> rfl
  rw [← stated] at fits closed
  have output : after.context.output = headerFrame settings header := by
    rw [closed]
    cases role <;> exact congrArg (· ++ _) silent
  have closing : header.Closing round.context.identity := by
    rw [stated]
    exact ⟨version, rfl, rfl, rfl, halted.close⟩
  refine ⟨settings.encoding.encode Header.schema header, output, ?_, ?_, closing, ?_, ?_, ?_⟩
  · -- The frame is all there is, and the other end has room for it.
    intro checked
    have hears : settings.Hears settings :=
      ⟨checked, rfl, rfl, fun _ => Nat.le_refl _, addressable⟩
    have closes : Markup.final.closes = true := rfl
    have read := (Settings.outcome_sealed hears .header closes fits []).1
    rw [List.append_nil] at read
    rw [output]
    exact read
  · -- What is framed is not longer than the frame, so its length can be counted.
    apply readHeader_encode _ closing.check_eq
    have escaped := Escape.length_le_length_encode settings.runLength
      (settings.encoding.encode Header.schema header)
    simp only [headerFrame, Writer.sealed, Settings.writer, List.length_append] at fits
    omega
  · rw [closed, stated]
    cases role <;> rfl
  · rw [closed, stated]
    cases role <;> rfl
  · have announced := halted.announce_nothing role
    rw [closed]
    exact ⟨announced.close, announced.receiving, announced.sending⟩

/--
A reset server denies a request header or is at fault with it. If it then manages to send its
response header, whatever it has prepared, both ends are closed once the client has read it: no
message phase follows, no item is awaited, the client has been told of the verdict, and no parcel
has changed in either depot.
-/
theorem refused_closes {settings : Settings} (addressable : settings.headerCapacity < UInt64.size)
    {prior server judged after : Round Parcel} {depot registered : MemoryDepot} {content : Bytes}
    {prepared hooked : List (Action Parcel)} {kind : Markup}
    (configured : prior.context.settings = settings)
    (begun : server = Action.applyAll prepared .server (prior.reset .server))
    (received : server.receiveHeader depot .server content = (judged, registered))
    (refused : judged.context.denied = true ∨ judged.context.errors ≠ 0)
    (unopened : .close false ∉ hooked)
    (sent : (Action.applyAll hooked .server judged).sendHeader .server = (.ok kind, after))
    {before : Round Parcel} {client : History MemoryDepot Parcel} {start : MemoryDepot}
    {asking : List (Operation Parcel)} (same : before.context.settings = settings)
    (asked : client =
      History.performAll .client { round := before.reset .client, depot := start } asking)
    (sends : ∀ operation ∈ asking, ∀ phase inbound,
      operation ≠ .dispatch .receive phase inbound)
    (idle : client.round.context.sending.active = false)
    (welcomes : client.depot.Welcomes server.context.identity) :
    ∃ frame, after.context.output = (settings.writer .header).sealed frame .final ∧
      (settings.check = .ok () →
        settings.outcome .header after.context.output = .ok ⟨frame, .final⟩) ∧
      let ended := client.round.receiveHeader client.depot .client frame
      after.Halted ∧ ended.1.Halted ∧ ended.1.context.receiving.left = 0 ∧
        ended.1.responseHeader.close = true ∧ ended.1.responseHeader.itemsCount = 0 ∧
        ended.1.responseHeader.errors = after.context.errors ∧
        ended.1.responseHeader.notice = after.responseHeader.notice ∧
        ended.1.context.denied = after.context.denied ∧
        (∀ id key, registered.get? id key = depot.get? id key) ∧
        ∀ id key, ended.2.get? id key = client.depot.get? id key := by
  -- The server is halted by its verdict, so it announces nothing afterwards.
  have errors : server.context.errors = 0 := by
    rw [begun, (Action.spared_applyAll prepared .server _).errors]
    rfl
  have judges : judged = (server.receiveHeader depot .server content).1 := by rw [received]
  have halted : (Action.applyAll hooked .server judged).Halted := by
    apply Halted.applyAll unopened
    rw [judges] at refused ⊢
    exact halted_of_refused errors refused
  -- It still speaks for itself, and has said nothing else in this round.
  have speaks : SameSpeaker .server (prior.reset .server)
      (Action.applyAll hooked .server judged) := by
    apply SameSpeaker.trans _ (SameSpeaker.applyAll .server hooked judged)
    rw [judges, begun]
    exact (SameSpeaker.applyAll .server prepared _).trans (SameSpeaker.receiveHeader ..)
  obtain ⟨frame, written, read, heard, closing, faults, denied, ended⟩ :=
    halted.sendHeader_closing addressable (speaks.settings.trans configured) speaks.output
      speaks.version sent
  -- The client has nothing left to send, and has not been told of any item.
  have unanswered : client.round.Unanswered settings := by
    rw [asked]
    apply History.performAll_keeps _ sends ⟨same, rfl⟩
    exact fun _ depot _ sends unanswered => unanswered.perform depot sends
  rw [← unanswered.configured] at heard
  have sender : (Action.applyAll hooked .server judged).context.identity =
      server.context.identity := by
    rw [speaks.identity, begun, (SameSpeaker.applyAll .server prepared _).identity]
  rw [sender] at closing
  obtain ⟨closed, left, told, verdict⟩ :=
    receiveHeader_closing closing heard unanswered.left idle welcomes
  refine ⟨frame, written, read, ?_⟩
  intro heard
  refine ⟨ended, closed, left, ?_, ?_, ?_, ?_, ?_, ?_, ?_⟩
  · exact (congrArg Header.close told).trans closing.close
  · exact (congrArg Header.itemsCount told).trans closing.itemsCount
  · exact (congrArg Header.errors told).trans faults
  · exact congrArg Header.notice told
  · exact verdict.trans denied
  · intro id key
    have kept := get?_receiveHeader server depot .server content id key
    rw [received] at kept
    exact kept
  · exact get?_receiveHeader client.round client.depot .client frame

/-- A client that may not register is told so, though the server has an item prepared for it. -/
theorem refused_closes_unregistered :
    let settings : Settings := {}
    let prior : Round Parcel := .ofContext (.initial { id := "s" } settings)
    let before : Round Parcel := .ofContext (.initial { id := "c", name := "C" } settings)
    let client := History.performAll .client
      { round := before.reset .client, depot := ({} : MemoryDepot) }
      [.act (.items [⟨"a", [1]⟩]), .dispatch .send .header none, .dispatch .send .message none]
    let content := settings.encoding.encode Header.schema client.round.requestHeader
    let prepared : List (Action Parcel) := [.items [⟨"b", [2]⟩]]
    let server := Action.applyAll prepared .server (prior.reset .server)
    let judged := (server.receiveHeader (MemoryDepot.restricted []) .server content).1
    let after := ((Action.applyAll [] .server judged).sendHeader .server).2
    client.round.requestHeader.items.length = 1 ∧ judged.context.denied = true ∧
      judged.response.items = [⟨"b", [2]⟩] ∧
      ∃ frame, settings.outcome .header after.context.output = .ok ⟨frame, .final⟩ ∧
        let ended := client.round.receiveHeader client.depot .client frame
        after.Halted ∧ ended.1.Halted ∧
          ended.1.responseHeader.notice = some "Registration denied for C (c)" ∧
          ended.1.context.denied = true := by
  -- The server denies the header, and its response goes out.
  intro settings prior before client content prepared server judged after
  have refused : judged.context.denied = true := by decide +kernel
  have sent : (Action.applyAll [] .server judged).sendHeader .server = (.ok .final, after) :=
    sent_of_succeeded (by decide +kernel)
  -- The client only acts and sends before it hears the response.
  have sends : ∀ operation ∈ ([.act (.items [⟨"a", [1]⟩]), .dispatch .send .header none,
      .dispatch .send .message none] : List (Operation Parcel)), ∀ phase inbound,
      operation ≠ .dispatch .receive phase inbound := by
    simp
  have idle : client.round.context.sending.active = false := by decide +kernel
  have admits : client.depot.admits server.context.identity.id = true := by decide +kernel
  have checked : settings.check = .ok () := by decide
  have addressable : settings.headerCapacity < UInt64.size := by decide
  have configured : prior.context.settings = settings := rfl
  have begun : server = Action.applyAll prepared .server (prior.reset .server) := rfl
  have received : server.receiveHeader (MemoryDepot.restricted []) .server content =
      (judged, _) := (Prod.eta _).symm
  have same : before.context.settings = settings := rfl
  have asked : client = History.performAll .client
      { round := before.reset .client, depot := ({} : MemoryDepot) } _ := rfl
  -- The theorem applies, with all that has been evaluated.
  obtain ⟨frame, _, read, ended, closed, _, _, _, _, told, verdict, _⟩ :=
    refused_closes addressable configured begun received (.inl refused) List.not_mem_nil
      sent same asked sends idle (Or.inr admits)
  refine ⟨by decide +kernel, refused, by decide +kernel, frame, read checked, ended, closed, ?_, ?_⟩
  · exact told.trans (by decide +kernel)
  · exact verdict.trans (by decide +kernel)

end Round

end SentinelRounds
