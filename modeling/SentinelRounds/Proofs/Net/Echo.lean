import SentinelRounds.Net.Echo
import SentinelRounds.Proofs.Net.Uncounted

/-! A round against a server that echoes: what a client sends comes back to it. -/

namespace SentinelRounds

namespace Hooks

/-- Hooks that echo leave alone what they see sent. -/
theorem silent_echo : echo.Silent := by
  -- They look at what is received only.
  intro phase round
  cases phase <;> rfl

/-- Hooks that echo set nothing but the mode when a header announces items. -/
theorem lenient_echo {batch : Nat} {sender : Identity} {items : List Parcel} {header : Header}
    (announces : header.Announces batch sender items) (some : items ≠ [])
    (countable : items.length < UInt32.size) : echo.Lenient .server header := by
  -- The header announces items, so the hooks ask for strict alternation.
  intro round headed
  have positive : 0 < header.itemsCount := by
    rw [announces.itemsCount, UInt32.lt_iff_toNat_lt, UInt32.toNat_ofNat_of_lt' countable]
    exact List.length_pos_iff.mpr some
  have request : round.requestHeader = header := headed
  refine ⟨true, ?_⟩
  simp only [echo, request, if_pos positive]
  rfl

end Hooks

namespace Link

variable {settings : Settings} {sender : Identity} {items : List Parcel} {batch : Nat}
  {origin : Round Parcel} {header : Header} {link heard : Link Parcel}

/-- Once the hooks have echoed what a server has received, it is ready to be sent. -/
theorem Listens.echoed (listens : heard.Listens .server batch sender items none origin header)
    (some : items ≠ []) (played : link.role = .server)
    (settled : link.round = Hooks.echo.settled .server items heard.round)
    (configured : origin.context.settings = settings) (clear : origin.context.Clear)
    (current : origin.responseHeader.version = protocolVersion) (empty : origin.context.output = [])
    (idle : origin.context.sending.active = false) :
    link.Ready .server settings items ∧ link.round.context.identity = origin.context.identity ∧
      link.round.context.signals.chunksReceived = true ∧
      link.round.context.signals.messageReceived = true ∧
      link.round.context.receiving.active = false ∧ link.round.context.receiving.left = 0 := by
  -- The place is behind the last item, so all of them are there.
  obtain ⟨_, receives, same, _⟩ := listens
  obtain ⟨carried, done, left, all⟩ := receives.progress
  -- The hooks echo the request, which has all its items.
  have request : heard.round.request.items = items := carried
  rw [Hooks.settled, if_neg some] at settled
  obtain ⟨id, _, socket, _, state, stats⟩ := link
  simp only at played settled
  subst played settled
  -- The notice and the echo leave everything else alone.
  have quiet := same.clear clear
  refine ⟨⟨rfl, same.settings.trans configured, ⟨quiet.close, quiet.denied, quiet.errors⟩, ?_, ?_,
    same.output.trans empty, ?_⟩, same.identity, all, rfl, done, left⟩
  · exact same.version.trans current
  · exact request
  · exact (congrArg Sending.active same.sending).trans idle

end Link

namespace Party

/-- A client that is about to send some items over its link, and then to wait for the response. -/
def calling (link : Link Parcel) (site : Site MemoryDepot) (items : List Parcel) :
    Party MemoryDepot Parcel :=
  { plan := Plan.round, link := link.act [.items items], site }

/--
A server that is about to receive one request over its link, and to respond once the request is
complete.
-/
def responding (link : Link Parcel) (site : Site MemoryDepot) (arriving : List Bytes) :
    Party MemoryDepot Parcel :=
  { plan := Plan.greeting ++ Plan.request ++ Plan.response false, link, site, arriving }

/-- A party that waits for a signal that is set goes on. -/
theorem awaits (hooks : Hooks Parcel) (party : Party MemoryDepot Parcel) {signal : Signal}
    {rest : Plan} (first : party.plan = .await signal :: rest)
    (set : party.link.round.context.signals.isSet signal = true) :
    party.step hooks = some { party with plan := rest } := by
  -- Waiting for a signal that is set is one step.
  obtain ⟨_, errands, link, site, arriving, written, fault⟩ := party
  simp only at first set
  subst first
  simp only [step, Plan.step, set, if_true, Option.map_some, answer, Plan.demand, goOn]

/-- A server that echoes receives a request, and then writes what it has received. -/
theorem responds {settings : Settings} (hears : settings.Hears settings) (usable : settings.Usable)
    {identity name : Identity} {items : List Parcel} (some : items ≠ [])
    (keyed : ∀ item ∈ items, item.key ≠ "")
    (stored : ∀ item ∈ items, item.body.length < allocationBound) {bytes : Bytes}
    (transmits : Transmits settings identity items bytes)
    (party : Party MemoryDepot Parcel)
    (planned : party.plan = Plan.greeting ++ Plan.request ++ Plan.response false)
    (sound : party.fault = none) (rests : party.link.Rests .server settings name)
    (welcomes : party.site.depot.Welcomes identity)
    (ahead : Ahead settings bytes party.link party.arriving) (answered : party.HeadersSent .echo) :
    ∃ served back, Reaches (step .echo) party served ∧ served.Completed ∧
      served.written = party.written ++ back ∧ Transmits settings name items back := by
  -- Headers can count the items, for the request has been transmitted.
  have countable : items.length < UInt32.size := by
    obtain ⟨_, _, countable, _⟩ := transmits
    exact countable
  -- The round begins, and the request is ahead.
  have begun := begins .echo party planned
  have opened := rests.open_begin
  have waiting := Link.ahead_begin ahead
  rw [← List.append_nil bytes] at waiting
  have lenient : ∀ header : Header, header.Announces settings.batchSize identity items →
      Hooks.echo.Lenient .server header :=
    fun _ announces => Hooks.lenient_echo announces some countable
  obtain ⟨link, heard, header, site, arriving, reached, _, _, listens, played, settled, _⟩ :=
    Party.hears .echo
      { party with
        plan := Role.server.exchange .receive ++ Plan.response false
        link := party.link.reset.begin } rfl opened hears usable lenient transmits keyed stored
      welcomes waiting
  -- The request is complete, and so is what its hooks have made of it.
  obtain ⟨ready, named, all, complete, received, left⟩ := listens.echoed some played settled
    opened.configured opened.clear rfl rfl rfl
  -- Both signals that the response waits for are set.
  have told := Reaches.head (awaits .echo { party with
      plan := Plan.response false, link, site, arriving } rfl all) <|
    Reaches.head (awaits .echo _ rfl complete) (Reaches.refl _)
  -- The response is written, whatever headers the server has to send.
  have due := begun.trans (reached.trans told)
  obtain ⟨last, store, back, wrote, transmitted, speaks, _⟩ := speaks .echo
    { party with plan := Role.server.exchange .send ++ [], link, site, arriving } Hooks.silent_echo
    rfl ready usable (.inr countable) (answered.later due)
  rw [named] at transmitted
  refine ⟨_, back, due.trans wrote, ⟨rfl, sound, ?_, ?_, ?_, ?_⟩, rfl, ?_⟩
  · exact (speaks.open ready.clear received).clear
  · exact speaks.sends.progress
  · exact (congrArg Receiving.active speaks.same.receiving).trans received
  · exact (congrArg Receiving.left speaks.same.receiving).trans left
  · rw [← rests.named]
    exact transmitted

/-- A client writes the items it has prepared, and can then receive whatever arrives. -/
theorem requests {settings : Settings} {identity : Identity} (usable : settings.Usable)
    (client : Party MemoryDepot Parcel) (planned : client.plan = Plan.round)
    (rests : client.link.Rests .client settings identity)
    (counts : settings.Counts client.link.round.request.items)
    (fresh : ∀ pieces, (∀ piece ∈ pieces, piece ≠ []) →
      Ahead settings pieces.flatten client.link pieces)
    (answered : client.HeadersSent .none) :
    ∃ link site bytes, Reaches (step .none) client
        { client with
          plan := Role.client.exchange .receive, link, site, written := client.written ++ bytes } ∧
      Transmits settings identity client.link.round.request.items bytes ∧
      link.Open .client settings ∧ link.round.context.sending.active = false ∧
      site.depot = client.site.depot ∧
      ∀ pieces, (∀ piece ∈ pieces, piece ≠ []) → Ahead settings pieces.flatten link pieces := by
  -- The way through the response comes after the way through the request.
  have first : client.plan =
      .reset :: .begin :: Role.client.exchange .send ++ Role.client.exchange .receive := planned
  obtain ⟨link, site, bytes, wrote, transmits, speaks, depot⟩ :=
    asks .none client (fun _ _ => rfl) first rests usable counts answered
  exact ⟨link, site, bytes, wrote, transmits, speaks.open rests.ready_begin.clear rfl,
    speaks.sends.progress, depot, fun pieces filled =>
      (Link.ahead_begin (fresh pieces filled)).congr speaks.same.intake⟩

/--
The echo round.

A client under usable settings writes some items with keys that headers can count, and a server
under the same settings, whose hooks echo, reads them in whatever pieces they arrive and responds;
the client then reads the response in whatever pieces it arrives.
If each end admits the other, and neither comes to a header that it cannot send, then both complete
the round; the client is sent back exactly its items, in a header that reports nothing wrong, and
its depot holds the last one of each key.
-/
theorem echoes {settings : Settings} (usable : settings.Usable) (identity name : Identity)
    (id socket number port : Nat) {items : List Parcel} (some : items ≠ [])
    (keyed : ∀ item ∈ items, item.key ≠ "")
    (stored : ∀ item ∈ items, item.body.length < allocationBound) (counts : settings.Counts items)
    {near far : MemoryDepot} (trusts : near.Welcomes name) (admits : far.Welcomes identity)
    (requested : (calling (.opened id .client socket identity settings) { depot := near }
      items).HeadersSent .none) :
    let client := calling (.opened id .client socket identity settings) { depot := near } items
    ∃ asked, Reaches (step .none) client asked ∧ asked.plan = Role.client.exchange .receive ∧
      ∀ pieces, (∀ piece ∈ pieces, piece ≠ []) → pieces.flatten = asked.written →
        let server := responding (.opened number .server port name settings) { depot := far } pieces
        server.HeadersSent .echo →
        ∃ served, Reaches (step .echo) server served ∧ served.Completed ∧
          ∀ replies, (∀ piece ∈ replies, piece ≠ []) → replies.flatten = served.written →
            ∃ answered, Reaches (step .none) { asked with arriving := replies } answered ∧
              answered.Completed ∧ answered.link.round.response.items = items ∧
              answered.link.round.responseHeader.itemsCount.toNat = items.length ∧
              answered.link.round.responseHeader.denied = false ∧
              answered.link.round.responseHeader.close = false ∧
              answered.link.round.responseHeader.errors = 0 ∧
              ∀ key, answered.site.depot.get? name.id key =
                (MemoryDepot.lastOf items key).or (near.get? name.id key) := by
  -- The two parties are run in turn, each on what the other has written.
  intro client
  have hears : settings.Hears settings :=
    ⟨usable.checked, rfl, rfl, fun _ => Nat.le_refl _,
      Nat.lt_trans usable.allocates.1 (by decide)⟩
  -- The client writes its request.
  obtain ⟨rests, carried⟩ := (Link.rests_opened id .client socket identity settings).act items
  obtain ⟨link, site, bytes, asked, transmits, opened, sent, depot, fed⟩ := requests usable client
    rfl rests (by exact carried ▸ counts)
    (fun _ filled => (Link.ahead_opened id .client socket identity settings filled).congr rfl)
    requested
  refine ⟨_, asked, rfl, fun pieces filled whole => ?_⟩
  intro server replied
  -- The server reads it, and writes its response.
  have ahead := Link.ahead_opened number .server port name settings filled
  rw [whole] at ahead
  obtain ⟨served, back, responded, completed, wrote, transmitted⟩ := responds hears usable some
    keyed stored transmits server rfl rfl (Link.rests_opened number .server port name settings) admits
    ahead replied
  refine ⟨served, responded, completed, fun replies full all => ?_⟩
  -- The client reads the response.
  have arrives := fed replies full
  rw [all, wrote, ← List.append_nil (_ ++ back)] at arrives
  obtain ⟨last, header, store, arriving, received, _, announces, listens, _, found⟩ := receives
    { client with
      plan := Role.client.exchange .receive, link, site, written := client.written ++ bytes
      arriving := replies } rfl opened hears usable transmitted keyed stored
    (depot ▸ trusts) arrives
  obtain ⟨returned, idle, left, _⟩ := listens.receives.progress
  obtain ⟨_, _, countable, _⟩ := transmitted
  have headed : last.round.responseHeader = header := listens.headed
  refine ⟨_, received, ⟨rfl, rfl, listens.same.clear opened.clear, ?_, idle, left⟩, returned, ?_,
    ?_, ?_, ?_, fun key => ?_⟩
  · exact (congrArg Sending.active listens.same.sending).trans sent
  · rw [headed, announces.itemsCount, UInt32.toNat_ofNat_of_lt' countable]
  · rw [headed, announces.denied]
  · rw [headed, announces.close]
  · rw [headed, announces.errors]
  · rw [found, depot]
    rfl

/-- Three items, two of them of one key, whose bytes arrive one by one in either direction. -/
theorem echoes_bytewise :
    let settings : Settings :=
      { headerCapacity := 300, messageCapacity := 40, batchSize := 2, runLength := 2 }
    let items : List Parcel := [⟨"a", [0x17, 0x17, 0x04]⟩, ⟨"b", []⟩, ⟨"a", [1]⟩]
    let client := calling (.opened 1 .client 1 { id := "c" } settings) { depot := {} } items
    settings.Usable ∧ ∃ asked served answered, Reaches (step .none) client asked ∧
      Reaches (step .echo) (responding (.opened 1 .server 2 { id := "s" } settings) { depot := {} }
        (asked.written.map fun byte => [byte])) served ∧
      Reaches (step .none) { asked with arriving := served.written.map fun byte => [byte] }
        answered ∧
      answered.link.round.response.items = items ∧
      answered.site.depot.get? "s" "a" = some ⟨"a", [1]⟩ := by
  -- All that the theorem asks for can be looked through.
  intro settings items client
  have usable : settings.Usable := ⟨by decide, by decide, by decide⟩
  -- Depots without restrictions welcome everybody.
  have welcomes : ∀ identity, ({} : MemoryDepot).Welcomes identity := fun _ => .inr rfl
  have requested : client.HeadersSent .none := headersSent_of_holdsAlong 100 (by decide +kernel)
  obtain ⟨asked, reached, waits, replies⟩ := echoes usable { id := "c" } { id := "s" } 1
    1 1 2 (by decide) (by decide) (by decide) (.inl (by decide)) (welcomes _) (welcomes _) requested
  -- Where the client has written its request, the headers of the server are tested along its run.
  let server (asked : Party MemoryDepot Parcel) : Party MemoryDepot Parcel :=
    responding (.opened 1 .server 2 { id := "s" } settings) { depot := {} }
      (asked.written.map fun byte => [byte])
  let test (party : Party MemoryDepot Parcel) : Bool :=
    party.plan ≠ Role.client.exchange .receive ||
      holdsAlong (step .echo) headerSent 1000 (server party)
  have along : holdsAlong (step .none) test 100 client = true := by decide +kernel
  have tested : test asked = true := reached.of_holdsAlong along
  simp only [test, waits, ne_eq, not_true_eq_false, decide_false, Bool.false_or] at tested
  obtain ⟨served, responded, _, answers⟩ := replies (asked.written.map fun byte => [byte]) (by simp)
    (by simp [← List.flatMap_def]) (headersSent_of_holdsAlong 1000 tested)
  obtain ⟨answered, received, _, returned, _, _, _, _, found⟩ :=
    answers (served.written.map fun byte => [byte]) (by simp) (by simp [← List.flatMap_def])
  exact ⟨usable, asked, served, answered, reached, responded, received, returned,
    (found "a").trans (by decide)⟩

/-- What an echo server tells a client whose header it refuses. -/
def refusalNotice (fault : RoundFault) : String := fault.message ++ "\n" ++ "No items to echo"

/-- A server that echoes notes a header it refuses, and the line of its hooks after it. -/
theorem refusing_echo {settings : Settings} {name : Identity} {origin : Link Parcel}
    (rests : origin.Rests .server settings name) (fault : RoundFault) (intake : Intake) :
    let round := origin.reset.begin.round.onContext fun context => { context with intake }
    refusing .echo .server fault round =
      ((round.fault .server fault).appendNotice .server "No items to echo").onContext
        fun context => context.raise .headerReceived := by
  -- The hooks see a request without items, which was not denied.
  intro round
  have undenied : (round.fault .server fault).context.denied = false := rests.denied
  have actions : Hooks.echo.actions (.completed .receive .header) (round.fault .server fault) =
      [.notice "No items to echo"] := by
    simp only [Hooks.echo, undenied]
    rfl
  rw [refusing, actions]
  rfl

/-- A server that echoes and has refused a header responds with a header that says so. -/
theorem responds_refused (party : Party MemoryDepot Parcel) {settings : Settings}
    {name : Identity} {origin : Link Parcel} {fault : RoundFault} {intake : Intake}
    (planned : party.plan = Plan.response false) (played : party.link.role = .server)
    (rests : origin.Rests .server settings name)
    (round : party.link.round = refusing .echo .server fault
      (origin.reset.begin.round.onContext fun context => { context with intake }))
    (fits : ∀ header : Header, header.identity = name → header.items = [] →
      header.notice = some (refusalNotice fault) →
      (Round.headerFrame settings header).length ≤ settings.headerCapacity) :
    ∃ link site written, Reaches (step .echo) party { party with plan := [], link, site, written } ∧
      link.round.context.errors = 1 := by
  -- The refused round is the fresh one with a fault and the line of the hooks.
  have noted := round.trans (refusing_echo rests fault intake)
  obtain ⟨own, configured, named, close, denied, idle⟩ := rests
  obtain ⟨id, _, socket, before, state, stats⟩ := origin
  simp only at own configured named
  subst own
  obtain ⟨_, errands, link, site, arriving, written, trouble⟩ := party
  simp only at planned played noted
  subst planned
  -- Both signals that the response waits for are set by the fault.
  have complete : link.round.context.signals.isSet .chunksReceived = true := by
    rw [noted]
    rfl
  have answered : link.round.context.signals.isSet .messageReceived = true := by
    rw [noted]
    rfl
  have told := Reaches.head (awaits .echo ⟨Plan.response false, errands, link, site, arriving,
      written, trouble⟩ rfl complete) <|
    Reaches.head (awaits .echo _ rfl answered) (Reaches.refl _)
  -- The round is closing, so the response announces nothing.
  have closing : link.round.announcement .server = .ok [] := by
    rw [noted]
    rfl
  have response := fits (Round.headerFor link.round.context (link.round.outgoingHeader .server) [])
    (by rw [noted]; exact named) rfl (by rw [noted]; rfl)
  have settled : link.round.context.settings = settings := by
    rw [noted]
    exact configured
  have sent := Round.sendHeader_eq closing
  simp only [settled, if_pos response] at sent
  obtain ⟨last, store, wrote, _, left⟩ := speaks_only_header .echo ⟨Role.server.exchange .send ++ [],
    errands, link, site, arriving, written, trouble⟩ Hooks.silent_echo rfl played
    (by rw [noted]; rfl) sent rfl
  refine ⟨last, store, _, told.trans wrote, ?_⟩
  rw [left, noted]
  rfl

/--
A client whose items wrap around to zero writes a header that announces none of them.

It then waits for a response, and so comes to no other header.
-/
theorem requests_wrapping {settings : Settings} {identity : Identity} (usable : settings.Usable)
    (client : Party MemoryDepot Parcel) (planned : client.plan = Plan.round)
    (rests : client.link.Rests .client settings identity)
    (wraps : UInt32.ofNat client.link.round.request.items.length = 0) {kind : Markup}
    {after : Round Parcel}
    (sent : client.link.reset.begin.round.sendHeader .client = (.ok kind, after))
    (unfed : Ahead settings [] client.link []) (quiet : client.arriving = []) :
    client.HeadersSent .none ∧ ∃ link site header, Reaches (step .none) client
        { client with
          plan := Role.client.exchange .receive, link, site
          written := client.written ++ Round.headerFrame settings header } ∧
      header.Announces settings.batchSize identity client.link.round.request.items ∧
      header.itemsCount = 0 ∧
      (Round.headerFrame settings header).length ≤ settings.headerCapacity := by
  -- The client writes its header.
  obtain ⟨_, positive, _, room⟩ := Settings.check_ok usable.checked
  have begun := begins .none client planned
  obtain ⟨link, site, header, wrote, announces, uncounted, short, played, same⟩ :=
    speaks_uncounted .none { client with
      plan := Role.client.exchange .send ++ Role.client.exchange .receive
      link := client.link.reset.begin } (fun _ _ => rfl) rfl rests.ready_begin positive wraps sent
  have asked := begun.trans wrote
  -- It has then nothing to wait for.
  have listens : link.Open .client settings :=
    ⟨played, same.settings.trans rests.configured,
      ⟨same.close.trans rests.close, same.denied.trans rests.denied, same.errors⟩,
      (congrArg Receiving.active same.receiving).trans rfl⟩
  have empty : Ahead settings [] link [] := (Link.ahead_begin unfed).congr same.intake
  obtain ⟨last, starved, stopped, closed⟩ := starves .none
    { client with
      plan := Role.client.exchange .receive ++ [], link, site
      written := client.written ++ Round.headerFrame settings header } rfl listens
    (Nat.lt_of_le_of_lt (Nat.zero_le _) room) (quiet ▸ empty)
  rw [← rests.named]
  refine ⟨headersSent_of_ended (asked.trans starved) stopped fun fault other => ?_,
    link, site, header, asked, announces, uncounted, short⟩
  rw [closed] at other
  cases other

/--
A server that echoes and comes to a header it refuses responds that it has.

It has then counted an error, and so has not completed its round.
-/
theorem refuses {settings : Settings} (hears : settings.Hears settings) {name : Identity}
    (server : Party MemoryDepot Parcel)
    (planned : server.plan = Plan.greeting ++ Plan.request ++ Plan.response false)
    (sound : server.fault = none) (single : server.errands = [])
    (rests : server.link.Rests .server settings name) {header : Header} {fault : RoundFault}
    (short : (Round.headerFrame settings header).length ≤ settings.headerCapacity)
    (refused : header.check = .error fault)
    (ahead : Ahead settings (Round.headerFrame settings header) server.link server.arriving)
    (fits : ∀ header : Header, header.identity = name → header.items = [] →
      header.notice = some (refusalNotice fault) →
      (Round.headerFrame settings header).length ≤ settings.headerCapacity) :
    server.HeadersSent .echo ∧
      (∃ served, Reaches (step .echo) server served ∧ served.step .echo = none ∧
        served.fault = none ∧ served.link.round.context.errors = 1) ∧
      ¬ ∃ served, Reaches (step .echo) server served ∧ served.Completed := by
  -- The server refuses the header, and responds that it has.
  have waiting := Link.ahead_begin ahead
  rw [← List.append_nil (Round.headerFrame settings header)] at waiting
  have entered := begins .echo server planned
  obtain ⟨heard, place, arriving, intake, reached, own, round⟩ := hears_refused .echo
    { server with
      plan := Role.server.exchange .receive ++ Plan.response false
      link := server.link.reset.begin } rfl rests.open_begin hears short refused waiting
  obtain ⟨link, site, written, responded, errors⟩ := responds_refused
    { server with plan := Plan.response false, link := heard, site := place, arriving } rfl own
    rests round fits
  have met := entered.trans (reached.trans responded)
  have complete : ({ server with plan := [], link, site, arriving, written } :
      Party MemoryDepot Parcel).step .echo = none := step_over .echo rfl single
  refine ⟨headersSent_of_ended met complete fun _ other => ?_, ⟨_, met, complete, sound, errors⟩, ?_⟩
  · rw [sound] at other
    cases other
  -- A server that has completed its round has come to its end, and there it counts one error.
  · rintro ⟨served, reaches, completed⟩
    have ends := met.eq_of_ended complete reaches
      (step_over .echo completed.complete (errands_nil reaches single))
    have clear := completed.clear.errors
    rw [ends, errors] at clear
    cases clear

/--
Parcels whose number wraps around to zero are not echoed.

Both ends send every header that they come to, but the server refuses the request: it responds that
it has counted an error, and so does not complete its round.
-/
theorem echoes_wrapping {settings : Settings} (usable : settings.Usable) (identity name : Identity)
    (id socket number port : Nat) {items : List Parcel} (nonempty : items ≠ [])
    (wraps : UInt32.ofNat items.length = 0) (near far : MemoryDepot) {kind : Markup}
    {after : Round Parcel}
    (sent : ((Link.opened id .client socket identity settings).act
      [.items items]).reset.begin.round.sendHeader .client = (.ok kind, after))
    (fits : ∀ header : Header, header.identity = name → header.items = [] →
      header.notice = some (refusalNotice (.contract (.countMismatch 0 items.length))) →
      (Round.headerFrame settings header).length ≤ settings.headerCapacity) :
    let client := calling (.opened id .client socket identity settings) { depot := near } items
    client.HeadersSent .none ∧
      ∃ asked, Reaches (step .none) client asked ∧ asked.plan = Role.client.exchange .receive ∧
        ∀ pieces, (∀ piece ∈ pieces, piece ≠ []) → pieces.flatten = asked.written →
          let server := responding (.opened number .server port name settings) { depot := far } pieces
          server.HeadersSent .echo ∧
            (∃ served, Reaches (step .echo) server served ∧ served.step .echo = none ∧
              served.fault = none ∧ served.link.round.context.errors = 1) ∧
            ¬ ∃ served, Reaches (step .echo) server served ∧ served.Completed := by
  -- Both parties have the same settings, so each hears the other.
  intro client
  have hears : settings.Hears settings :=
    ⟨usable.checked, rfl, rfl, fun _ => Nat.le_refl _,
      Nat.lt_trans usable.allocates.1 (by decide)⟩
  obtain ⟨rests, carried⟩ := (Link.rests_opened id .client socket identity settings).act items
  -- The client announces none of its items.
  have unfed : Ahead settings ([] : List Bytes).flatten client.link [] :=
    (Link.ahead_opened id .client socket identity settings
      fun _ member => absurd member List.not_mem_nil).congr rfl
  obtain ⟨answered, link, store, header, asked, announces, uncounted, short⟩ :=
    requests_wrapping usable client rfl rests (by exact carried ▸ wraps) sent unfed rfl
  refine ⟨answered, _, asked, rfl, fun pieces filled whole => ?_⟩
  -- The server finds items in a header that counts none.
  have ahead := Link.ahead_opened number .server port name settings filled
  rw [whole] at ahead
  exact refuses hears (responding (.opened number .server port name settings) { depot := far } pieces)
    rfl rfl rfl (Link.rests_opened number .server port name settings) short
    ((carried ▸ announces).check_uncounted uncounted nonempty) ahead fits

/-- So many parcels that their number wraps around to zero: the server refuses to echo them. -/
theorem echoes_uncounted :
    let settings : Settings := { headerCapacity := Nat.pow 2 40 }
    let items : List Parcel := List.replicate UInt32.size ⟨"k", []⟩
    let client := calling (.opened 1 .client 1 { id := "c" } settings) { depot := {} } items
    settings.Usable ∧ items ≠ [] ∧
      (∀ item ∈ items, item.key ≠ "" ∧ item.body.length < allocationBound) ∧
      ({} : MemoryDepot).Welcomes { id := "c" } ∧ ({} : MemoryDepot).Welcomes { id := "s" } ∧
      client.HeadersSent .none ∧
      ∃ asked, Reaches (step .none) client asked ∧ asked.plan = Role.client.exchange .receive ∧
        ∀ pieces, (∀ piece ∈ pieces, piece ≠ []) → pieces.flatten = asked.written →
          let server := responding (.opened 1 .server 2 { id := "s" } settings) { depot := {} } pieces
          server.HeadersSent .echo ∧
            ¬ ∃ served, Reaches (step .echo) server served ∧ served.Completed := by
  -- So many parcels cannot be looked through: all there is to them is what is known of a crowd.
  intro settings items
  have crowd : items = Parcel.crowd := rfl
  clear_value items
  intro client
  have usable : settings.Usable := ⟨by decide +kernel, by decide, by decide⟩
  have length : items.length = UInt32.size := by
    rw [crowd]
    exact List.length_replicate
  have nonempty : items ≠ [] := crowd ▸ Parcel.crowd_ne_nil
  have wraps : UInt32.ofNat items.length = 0 := crowd ▸ Parcel.wraps_crowd
  have alike : ∀ item ∈ items, item.key ≠ "" ∧ item.body.length < allocationBound :=
    crowd ▸ Parcel.stored_crowd
  have run : settings.runLength ≤ UInt32.size := by decide
  have named : (Identity.schema.binary.put { id := "c" }).length ≤ UInt32.size := by decide
  obtain ⟨after, sent⟩ : ∃ after, ((Link.opened 1 .client 1 { id := "c" } settings).act
      [.items items]).reset.begin.round.sendHeader .client = (.ok .final, after) :=
    Round.sendHeader_crowd rfl (Settings.check_ok usable.checked).2.1 rfl (Nat.le_refl _) run named
      rfl crowd
  -- The response is short: all it carries is a name and a notice.
  have fits : ∀ header : Header, header.identity = { id := "s" } → header.items = [] →
      header.notice = some (refusalNotice (.contract (.countMismatch 0 items.length))) →
      (Round.headerFrame settings header).length ≤ settings.headerCapacity := by
    intro header identity empty notice
    have frame := @Round.length_headerFrame_le settings rfl header
    have content := Header.length_put header
    rw [identity, empty, notice, length] at content
    have said : (Binary.Layout.text.optional.put
        (some (refusalNotice (.contract (.countMismatch 0 UInt32.size))))).length ≤ 200 := by
      decide +kernel
    have called : (Identity.schema.binary.put { id := "s" }).length ≤ 200 := by decide
    have run : settings.runLength = 16 := rfl
    have room : settings.headerCapacity = 1099511627776 := rfl
    rw [List.flatMap_nil, List.length_nil] at content
    rw [run] at frame
    rw [room]
    omega
  obtain ⟨answered, asked, reached, waits, refused⟩ := echoes_wrapping usable { id := "c" }
    { id := "s" } 1 1 1 2 nonempty wraps {} {} sent fits
  refine ⟨usable, nonempty, alike, .inr rfl, .inr rfl, answered, asked, reached, waits,
    fun pieces filled whole => ?_⟩
  obtain ⟨responded, _, incomplete⟩ := refused pieces filled whole
  exact ⟨responded, incomplete⟩

end Party

end SentinelRounds
