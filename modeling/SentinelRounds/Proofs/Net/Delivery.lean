import Mathlib.Data.List.Forall2
import SentinelRounds.Proofs.Net.Uncounted

/-! Requests that a client writes one after the other, and a server that answers none of them until
it has read them: every request is delivered, however the bytes are split on their way. -/

namespace SentinelRounds

namespace Party

/-- A client that sends some requests over its link, one round after the other. -/
def asking (link : Link Parcel) (site : Site MemoryDepot) (requests : List (List Parcel)) :
    Party MemoryDepot Parcel :=
  { link, site, errands := requests.map fun items => ⟨[.items items], Plan.round.take 5⟩ }

/-- A server that receives so many requests over its link, one round after the other. -/
def serving (link : Link Parcel) (site : Site MemoryDepot) (count : Nat) (arriving : List Bytes) :
    Party MemoryDepot Parcel :=
  { link, site, arriving, errands := List.replicate count ⟨[], Plan.greeting ++ Plan.request⟩ }

/-- A run that completes one round per request, in order, and has its items at the end of the round. -/
def Serves (hooks : Hooks Parcel) : List (List Parcel) → Party MemoryDepot Parcel →
    Party MemoryDepot Parcel → Prop
  | [], party, last => party = last
  | items :: requests, party, last => ∃ served, Reaches (step hooks) party served ∧
    served.Completed ∧ served.link.round.request.items = items ∧
    served.errands.length = requests.length ∧ Serves hooks requests served last

/-- A client writes all its requests. -/
theorem asks_all {settings : Settings} {identity : Identity} (usable : settings.Usable)
    {requests : List (List Parcel)}
    (counts : ∀ items ∈ requests, settings.Counts items) (party : Party MemoryDepot Parcel)
    (complete : party.plan = [])
    (errands : party.errands =
      requests.map fun items => ⟨[.items items], Plan.round.take 5⟩)
    (rests : party.link.Rests .client settings identity)
    (answered : party.HeadersSent .none) :
    ∃ (link : Link Parcel) (site : Site MemoryDepot) (parts : List Bytes),
      Reaches (step .none) party
        { party with link, site, errands := [], written := party.written ++ parts.flatten } ∧
      List.Forall₂ (Transmits settings identity) requests parts ∧
      link.Rests .client settings identity := by
  -- The induction is on the requests that are left.
  induction requests generalizing party with
  | nil =>
    refine ⟨party.link, party.site, [], ?_, .nil, rests⟩
    obtain ⟨plan, _, link, site, arriving, written, fault⟩ := party
    simp only at errands
    subst errands
    simp only [List.flatten_nil, List.append_nil]
    exact Reaches.refl _
  | cons items requests ih =>
    obtain ⟨counted, others⟩ := List.forall_mem_cons.mp counts
    obtain ⟨prepared, carried⟩ := rests.act items
    -- The client prepares the first request, and writes it.
    have out := setsOut .none party complete errands
    obtain ⟨link, site, bytes, asked, transmits, speaks, _⟩ := asks .none
      { party with
        plan := Plan.round.take 5
        errands := requests.map fun items => ⟨[.items items], Plan.round.take 5⟩
        link := party.link.act [.items items] } (fun _ _ => rfl) rfl prepared usable
      (by rw [carried]; exact counted) (answered.later out)
    have resting := speaks.rests prepared.ready_begin.clear
    have named : (party.link.act [.items items]).reset.begin.round.context.identity = identity :=
      prepared.named
    rw [named] at resting
    rw [carried] at transmits
    -- The headers after it are sent from here on.
    have reached := out.trans asked
    obtain ⟨last, store, parts, rest, all, done⟩ := ih others
      { party with
        plan := []
        errands := requests.map fun items => ⟨[.items items], Plan.round.take 5⟩
        link, site, written := party.written ++ bytes } rfl rfl resting (answered.later reached)
    refine ⟨last, store, bytes :: parts, reached.trans ?_, .cons transmits all, done⟩
    rw [List.flatten_cons, ← List.append_assoc, complete]
    exact rest

/-- A server serves all requests that are ahead of it, and merges their items. -/
theorem serves_all {receiver sender : Settings} {identity name : Identity}
    (hears : receiver.Hears sender) (usable : sender.Usable) {requests : List (List Parcel)}
    {parts : List Bytes}
    (transmitted : List.Forall₂ (Transmits sender identity) requests parts)
    (keyed : ∀ items ∈ requests, ∀ item ∈ items, item.key ≠ "")
    (stored : ∀ items ∈ requests, ∀ item ∈ items, item.body.length < allocationBound)
    (party : Party MemoryDepot Parcel) (complete : party.plan = []) (sound : party.fault = none)
    (errands : party.errands =
      List.replicate requests.length ⟨[], Plan.greeting ++ Plan.request⟩)
    (rests : party.link.Rests .server receiver name)
    (welcomes : party.site.depot.Welcomes identity)
    (ahead : Ahead receiver parts.flatten party.link party.arriving) :
    ∃ last, Serves .none requests party last ∧ last.plan = [] ∧ last.errands = [] ∧
      last.fault = none ∧ Ahead receiver [] last.link last.arriving ∧
      ∀ key, last.site.depot.get? identity.id key =
        (MemoryDepot.lastOf requests.flatten key).or (party.site.depot.get? identity.id key) := by
  -- The induction is on the requests that are ahead.
  induction transmitted generalizing party with
  | nil => exact ⟨party, rfl, complete, errands, sound, ahead, fun _ => rfl⟩
  | @cons items bytes requests parts transmits _ ih =>
    obtain ⟨keys, others⟩ := List.forall_mem_cons.mp keyed
    obtain ⟨bodies, remaining⟩ := List.forall_mem_cons.mp stored
    rw [List.flatten_cons] at ahead
    -- The server sets out on a round, and the first request is ahead of it.
    have out := setsOut .none party complete errands
    have begun := begins .none { party with
      plan := Plan.greeting ++ Plan.request
      errands := List.replicate requests.length ⟨[], Plan.greeting ++ Plan.request⟩ } rfl
    have opened := rests.open_begin
    have waiting := Link.ahead_begin ahead
    obtain ⟨link, header, site, arriving, reached, left, _, listens, contained, kept⟩ := receives
      { party with
        plan := Role.server.exchange .receive ++ []
        errands := List.replicate requests.length ⟨[], Plan.greeting ++ Plan.request⟩
        link := party.link.reset.begin } rfl opened hears usable transmits keys bodies welcomes
      waiting
    -- After the round the link rests, and the other requests are ahead.
    have resting := listens.rests rests.configured opened.clear rfl
    obtain ⟨last, serves, done, none, well, empty, found⟩ := ih others remaining
      { party with
        plan := []
        errands := List.replicate requests.length ⟨[], Plan.greeting ++ Plan.request⟩
        link, site, arriving } rfl sound rfl (by rw [← rests.named]; exact resting) (.inl contained)
      left
    obtain ⟨carried, idle, nothing, _⟩ := listens.receives.progress
    have completed : Completed { party with
        plan := []
        errands := List.replicate requests.length ⟨[], Plan.greeting ++ Plan.request⟩
        link, site, arriving } :=
      ⟨rfl, sound, listens.same.clear opened.clear, resting.idle, idle, nothing⟩
    refine ⟨last, ⟨_, out.trans (begun.trans reached), completed, carried, List.length_replicate,
      serves⟩, done, none, well, empty, fun key => ?_⟩
    rw [found, kept, List.flatten_cons, MemoryDepot.lastOf_append, Option.or_assoc]

/--
Delivery of pipelined requests.

A client under usable settings, none of whose headers is refused, writes all its requests without a
fault, if headers can count the items of each.
In whatever pieces these bytes arrive, a server that can hear the client and admits it serves them
in order, one per round, without a fault, refusal or error; then no bytes are left anywhere, and its
depot holds for the client the last parcel of each key.
-/
theorem serves_pipelined {settings receiver : Settings} (hears : receiver.Hears settings)
    (usable : settings.Usable)
    (identity name : Identity) (id socket number port : Nat) (site : Site MemoryDepot)
    {requests : List (List Parcel)} (keyed : ∀ items ∈ requests, ∀ item ∈ items, item.key ≠ "")
    (stored : ∀ items ∈ requests, ∀ item ∈ items, item.body.length < allocationBound)
    (counts : ∀ items ∈ requests, settings.Counts items)
    (answered : (asking (.opened id .client socket identity settings) site requests).HeadersSent
      .none)
    (depot : MemoryDepot) (empty : depot.targets = .empty)
    (admitted : depot.admits identity.id = true) :
    let client := asking (.opened id .client socket identity settings) site requests
    ∃ asked, Reaches (step .none) client asked ∧ asked.step .none = none ∧ asked.fault = none ∧
      asked.link.round.context.sending.active = false ∧
      ∀ pieces, (∀ piece ∈ pieces, piece ≠ []) → pieces.flatten = asked.written →
        let server := serving (.opened number .server port name receiver) { depot }
          requests.length pieces
        ∃ last, Serves .none requests server last ∧ last.step .none = none ∧ last.fault = none ∧
          last.arriving = [] ∧ last.link.round.context.intake.Holds receiver (fun _ => []) [] ∧
          ∀ key, last.site.depot.get? identity.id key =
            MemoryDepot.lastOf requests.flatten key := by
  -- First the client is run to its end, and then the server on what it has written.
  intro client
  -- The client writes all its requests, one part for each.
  obtain ⟨link, store, parts, reached, transmitted, resting⟩ := asks_all usable counts
    client rfl rfl (Link.rests_opened id .client socket identity settings) answered
  refine ⟨_, reached, step_over _ rfl rfl, rfl, resting.idle, fun pieces filled whole => ?_⟩
  intro server
  -- All parts are ahead of a fresh server.
  have ahead := Link.ahead_opened number .server port name receiver filled
  rw [whole] at ahead
  obtain ⟨last, serves, complete, done, sound, left, found⟩ := serves_all hears usable transmitted keyed
    stored server rfl rfl rfl (Link.rests_opened number .server port name receiver)
    (.inr admitted) ahead
  obtain ⟨drained, holds⟩ := left.nothing
  refine ⟨last, serves, step_over _ complete done, sound, drained, holds, fun key => ?_⟩
  -- An empty depot has nothing under any key.
  have nothing : depot.get? identity.id key = none := by
    rw [MemoryDepot.get?, empty]
    rfl
  rw [found]
  exact (congrArg (Option.or _) nothing).trans (Option.or_none)

/--
Three requests, the second one without items, that arrive byte by byte at a server with another
batch size.
-/
theorem serves_pipelined_bytewise :
    let settings : Settings :=
      { headerCapacity := 200, messageCapacity := 40, batchSize := 2, runLength := 2 }
    let receiver : Settings := { settings with messageCapacity := 50, batchSize := 7 }
    let requests : List (List Parcel) :=
      [[⟨"a", [0x17, 0x17, 0x04]⟩], [], [⟨"a", [1]⟩, ⟨"b", []⟩]]
    let client := asking (.opened 1 .client 1 { id := "c" } settings) { depot := {} } requests
    settings.Usable ∧ ∃ asked last, Reaches (step .none) client asked ∧
      Serves .none requests (serving (.opened 1 .server 2 { id := "s" } receiver) { depot := {} } 3
        (asked.written.map fun byte => [byte])) last ∧
      last.site.depot.get? "c" "a" = some ⟨"a", [1]⟩ := by
  -- All that the theorem asks for can be looked through.
  intro settings receiver requests client
  have hears : receiver.Hears settings :=
    ⟨by decide, rfl, rfl, fun phase => by cases phase <;> decide, by decide⟩
  have usable : settings.Usable := ⟨by decide, by decide, by decide⟩
  have keyed : ∀ items ∈ requests, ∀ item ∈ items, item.key ≠ "" := by decide
  have stored : ∀ items ∈ requests, ∀ item ∈ items, item.body.length < allocationBound := by decide
  have counts : ∀ items ∈ requests, settings.Counts items := fun _ _ => .inl (by decide)
  -- The run of the client is short enough to be looked through.
  have answered : client.HeadersSent .none :=
    headersSent_of_holdsAlong 100 (by decide +kernel)
  obtain ⟨asked, reached, _, _, _, delivered⟩ := serves_pipelined hears usable { id := "c" }
    { id := "s" } 1 1 1 2 { depot := {} } keyed stored counts answered {} rfl rfl
  obtain ⟨last, serves, _, _, _, _, found⟩ := delivered (asked.written.map fun byte => [byte])
    (by simp) (by simp [← List.flatMap_def])
  exact ⟨usable, asked, last, reached, serves, (found "a").trans (by decide)⟩

/--
A request of parcels whose number wraps around to zero is not delivered.

Its client writes a header for it, and has then come to its end without a fault. In whatever pieces
the header arrives, the server records a fault and expects no parcels.
-/
theorem serves_wrapping {settings receiver : Settings} (hears : receiver.Hears settings)
    (identity name : Identity) (id socket number port : Nat) (site : Site MemoryDepot)
    {items : List Parcel} (nonempty : items ≠ []) (wraps : UInt32.ofNat items.length = 0)
    {kind : Markup} {after : Round Parcel}
    (sent : ((Link.opened id .client socket identity settings).act
      [.items items]).reset.begin.round.sendHeader .client = (.ok kind, after))
    (depot : MemoryDepot) :
    let client := asking (.opened id .client socket identity settings) site [items]
    client.HeadersSent .none ∧
      ∃ asked, Reaches (step .none) client asked ∧ asked.step .none = none ∧ asked.fault = none ∧
        ∀ pieces, (∀ piece ∈ pieces, piece ≠ []) → pieces.flatten = asked.written →
          let server := serving (.opened number .server port name receiver) { depot } 1 pieces
          (∃ last, Reaches (step .none) server last ∧ last.step .none = none ∧ last.fault = none ∧
            last.link.round.context.errors = 1 ∧ last.link.round.request.items = []) ∧
            ¬ ∃ last, Serves .none [items] server last := by
  -- The client is followed first, and then the server on what it has written.
  intro client
  have positive := (Settings.check_ok hears.checked).2.1
  obtain ⟨rests, carried⟩ :=
    (Link.rests_opened id .client socket identity settings).act items
  have ready := rests.ready_begin
  rw [carried] at ready
  -- The client prepares its request, and writes the header.
  have out := setsOut .none client rfl rfl
  have begun := begins .none { client with
    plan := Plan.round.take 5, errands := []
    link := client.link.act [.items items] } rfl
  obtain ⟨link, store, header, wrote, announces, uncounted, fits, _⟩ := speaks_uncounted .none
    { client with
      plan := Role.client.exchange .send ++ [], errands := []
      link := (client.link.act [.items items]).reset.begin } (fun _ _ => rfl) rfl ready positive
    wraps sent
  have asked := out.trans (begun.trans wrote)
  refine ⟨headersSent_of_ended asked (step_over _ rfl rfl) (fun _ other => by cases other), _, asked,
    step_over _ rfl rfl, rfl, fun pieces filled whole => ?_⟩
  intro server
  -- The server reads the header, and refuses it.
  have ahead := Link.ahead_begin (Link.ahead_opened number .server port name receiver filled)
  rw [whole, ← List.append_nil (client.written ++ _)] at ahead
  have started := setsOut .none server rfl rfl
  have entered := begins .none { server with
    plan := Plan.greeting ++ Plan.request, errands := [], link := server.link.act [] } rfl
  obtain ⟨heard, place, arriving, intake, reached, _, round⟩ := hears_refused .none
    { server with
      plan := Role.server.exchange .receive ++ [], errands := []
      link := (server.link.act []).reset.begin } rfl
    (Link.rests_opened number .server port name receiver).open_begin hears fits
    (announces.check_uncounted uncounted nonempty) ahead
  have met := started.trans (entered.trans reached)
  have errors : heard.round.context.errors = 1 := by
    rw [round]
    rfl
  have nothing : heard.round.request.items = [] := by
    rw [round]
    rfl
  refine ⟨⟨_, met, step_over _ rfl rfl, rfl, errors, nothing⟩, ?_⟩
  rintro ⟨_, served, reaches, completed, _, finished, _⟩
  -- A server that has served its one request has come to its end, and there it counts one error.
  have same := met.eq_of_ended (step_over _ rfl rfl) reaches
    (step_over .none completed.complete (List.length_eq_zero_iff.mp finished))
  have clear := completed.clear.errors
  rw [same, errors] at clear
  cases clear

/-- So many parcels that their number wraps around to zero: the server refuses the request. -/
theorem serves_uncounted :
    let settings : Settings := { headerCapacity := Nat.pow 2 40 }
    let requests : List (List Parcel) := [List.replicate UInt32.size ⟨"k", []⟩]
    let client := asking (.opened 1 .client 1 { id := "c" } settings) { depot := {} } requests
    settings.Hears settings ∧ settings.Usable ∧
      (∀ items ∈ requests, ∀ item ∈ items, item.key ≠ "" ∧ item.body.length < allocationBound) ∧
      client.HeadersSent .none ∧
      ∃ asked, Reaches (step .none) client asked ∧ asked.step .none = none ∧ asked.fault = none ∧
        ∀ pieces, (∀ piece ∈ pieces, piece ≠ []) → pieces.flatten = asked.written →
          ¬ ∃ last, Serves .none requests
            (serving (.opened 1 .server 2 { id := "s" } settings) { depot := {} } 1 pieces) last := by
  -- So many parcels cannot be looked through: all there is to them is what is known of a crowd.
  intro settings
  obtain ⟨items, crowd, copies⟩ : ∃ items, items = Parcel.crowd ∧
      List.replicate UInt32.size ⟨"k", []⟩ = items := ⟨_, rfl, rfl⟩
  rw [copies]
  intro requests client
  have usable : settings.Usable := ⟨by decide +kernel, by decide, by decide⟩
  have hears : settings.Hears settings :=
    ⟨usable.checked, rfl, rfl, fun _ => Nat.le_refl _, by decide⟩
  have nonempty : items ≠ [] := crowd ▸ Parcel.crowd_ne_nil
  -- Their number wraps around to zero.
  have wraps : UInt32.ofNat items.length = 0 := crowd ▸ Parcel.wraps_crowd
  have alike : ∀ item ∈ items, item.key ≠ "" ∧ item.body.length < allocationBound :=
    crowd ▸ Parcel.stored_crowd
  -- The header of all of them still fits, so it is sent.
  have run : settings.runLength ≤ UInt32.size := by decide
  have named : (Identity.schema.binary.put { id := "c" }).length ≤ UInt32.size := by decide
  obtain ⟨after, sent⟩ : ∃ after, ((Link.opened 1 .client 1 { id := "c" } settings).act
      [.items items]).reset.begin.round.sendHeader .client = (.ok .final, after) :=
    Round.sendHeader_crowd rfl (Settings.check_ok usable.checked).2.1 rfl (Nat.le_refl _) run named
      rfl crowd
  -- The message is not sent, and the server refuses the header for its count.
  obtain ⟨answered, asked, reached, ended, sound, refused⟩ := serves_wrapping hears { id := "c" }
    { id := "s" } 1 1 1 2 { depot := {} } nonempty wraps sent {}
  refine ⟨hears, usable, List.forall_mem_singleton.mpr alike, answered, asked, reached, ended,
    sound, fun pieces filled whole => ?_⟩
  exact (refused pieces filled whole).2

end Party

end SentinelRounds
