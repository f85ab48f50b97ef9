import SentinelRounds.Proofs.Round.Outcomes

/-! What a server that has nothing to send answers to a request header, and when the answer fits. -/

namespace SentinelRounds

namespace Round

/--
The header with which a server without items answers a request header: it speaks of a fault, of a
denial, or of a registration, and of nothing if it knows the client.
-/
def reply (context : Context) (depot : MemoryDepot) (content : Bytes) : Header :=
  -- The mode of a request is taken over, but only if the request can be read.
  let header : Header :=
    { identity := context.identity
      synchronic := context.synchronic
      denied := context.denied
      close := context.close }
  match readHeader context.settings.encoding content with
  | .error fault => { header with close := true, errors := 1, notice := some fault.message }
  | .ok request =>
    let header := { header with
      synchronic := request.synchronic, denied := false, close := context.close || request.close }
    if depot.targets.contains request.identity.id then header
    else
      match (depot.register request.identity).1 with
      | .accepted notice => { header with notice := some notice }
      | .rejected reason => { header with denied := true, close := true, notice := some reason }

/-- A server that has only a header to send, and which one. -/
structure Owes (header : Header) (round : Round Parcel) : Prop where
  items : round.response.items = []
  header : headerFor round.context round.responseHeader [] = header
  output : round.context.output = []

/-- What is owed is sent if its frame fits the client's buffer, and otherwise nothing is sent. -/
theorem Owes.sendHeader {header : Header} {round : Round Parcel} (owes : round.Owes header) :
    let settings := round.context.settings
    let frame := headerFrame settings header
    let (result, sent) := round.sendHeader .server
    if frame.length ≤ settings.headerCapacity then
      result = .ok .final ∧ sent.responseHeader = header ∧ sent.context.output = frame
    else
      result = .error (.codec (.frame (.tooLarge frame.length settings.headerCapacity))) ∧
        sent.context.output = [] := by
  -- The header to send is the owed one, so its frame decides alone.
  intro settings frame
  -- No item is announced, whether the server closes or has none.
  have announced : round.announcement .server = .ok [] := by
    show (if round.context.close then _ else describeAll _ round.response.items) = _
    rw [owes.items]
    split <;> rfl
  have stated : headerFor round.context (round.outgoingHeader .server) [] = header := owes.header
  rw [sendHeader_eq announced, stated]
  -- The output was empty, so only the frame is in it afterwards.
  by_cases fits : (headerFrame round.context.settings header).length ≤
      round.context.settings.headerCapacity
  · simp only [if_pos fits, settings, frame, true_and]
    refine ⟨owes.header, ?_⟩
    show round.context.output ++ _ = _
    rw [owes.output, List.nil_append]
  · simp only [if_neg fits, settings, frame, true_and]
    exact owes.output

/-- A server that accepts a request without having items itself owes a header without items. -/
theorem owes_acceptItems {round : Round Parcel} {depot : MemoryDepot} {request : Header}
    (contained : depot.targets.contains request.identity.id = true)
    (empty : round.response.items = []) (output : round.context.output = []) :
    (round.acceptItems depot .server request).context.settings = round.context.settings ∧
      (round.acceptItems depot .server request).Owes
        { headerFor round.context round.responseHeader [] with denied := false } := by
  -- The request is not at fault, even if an announced item cannot be located.
  rcases MemoryDepot.locateAll_contained contained request.items with
    ⟨_, located⟩ | ⟨descriptor, _, _, located⟩
  · simp only [acceptItems, located, expect_eq]
    exact ⟨rfl, empty, rfl, output⟩
  · simp only [acceptItems, located, RoundFault.isFatal, if_true]
    exact ⟨rfl, empty, rfl, output⟩

/-- Whether some content is the header of an admitted peer with an item too long for any memory. -/
def Overlong (encoding : Encoding) (depot : MemoryDepot) (content : Bytes) : Prop :=
  ∃ request, readHeader encoding content = .ok request ∧ depot.Welcomes request.identity ∧
    ¬ MemoryDepot.Fits request.items

/-- Only an item that is too long for any memory keeps a server from receiving a header. -/
theorem fatality_overlong (round : Round Parcel) (depot : MemoryDepot) (content : Bytes) :
    (round.fatality depot .server content = none ∧
        ¬ Overlong round.context.settings.encoding depot content) ∨
      ∃ fault, round.fatality depot .server content = some fault ∧ fault.isFatal = true ∧
        Overlong round.context.settings.encoding depot content := by
  -- A header that cannot be read, or not be welcome, locates nothing.
  cases read : readHeader round.context.settings.encoding content with
  | error fault =>
    left
    refine ⟨by simp only [fatality, read], ?_⟩
    rintro ⟨request, other, _⟩
    cases other.symm.trans read
  | ok request =>
    have allowed : request.refusal .server = none := rfl
    have only : Overlong round.context.settings.encoding depot content →
        depot.Welcomes request.identity ∧ ¬ MemoryDepot.Fits request.items := by
      rintro ⟨other, same, welcomes, long⟩
      cases same.symm.trans read
      exact ⟨welcomes, long⟩
    by_cases welcomes : depot.Welcomes request.identity
    · -- A peer that is let in has its items located, as far as there is memory for them.
      obtain ⟨notice, store, answer, contained, _⟩ := welcome_admitted welcomes
      rw [fatality_admitted read allowed answer]
      rcases MemoryDepot.locateAll_contained contained request.items with
        ⟨fits, located⟩ | ⟨descriptor, member, long, located⟩
      · rw [located]
        exact .inl ⟨rfl, fun overlong => (only overlong).2 fits⟩
      · rw [located]
        exact .inr ⟨_, rfl, rfl, request, read, welcomes,
          fun fits => Nat.not_lt_of_le long (fits descriptor member)⟩
    · -- Any other peer is turned away before.
      left
      refine ⟨?_, fun overlong => welcomes (only overlong).1⟩
      obtain ⟨absent, unwanted⟩ := not_or.mp welcomes
      have unknown : ¬ Depot.contains depot request.identity = true := absent
      have refused : Depot.register depot request.identity =
          (.rejected s!"Registration denied for {request.identity.name} ({request.identity.id})",
            depot) := if_neg unwanted
      have turned : (welcome depot request.identity).1 =
          .rejected s!"Registration denied for {request.identity.name} ({request.identity.id})" := by
        simp only [welcome, if_neg unknown, refused]
      obtain ⟨store, turned⟩ : ∃ store, welcome depot request.identity = (.rejected _, store) :=
        ⟨_, Prod.ext turned rfl⟩
      simp only [fatality, read, allowed, turned]

/-- Whatever a request header holds, a server without items owes its reply. -/
theorem owes_receiveHeader (round : Round Parcel) (depot : MemoryDepot) (content : Bytes) :
    let received := (round.reset .server).receiveHeader depot .server content
    received.1.context.settings = round.context.settings ∧
      received.1.Owes (reply round.context depot content) := by
  -- The reply names the notice for each way in which receiving the header can end.
  have settings : (round.reset .server).context.settings = round.context.settings := rfl
  simp only [receiveHeader, reply, settings]
  cases readHeader round.context.settings.encoding content with
  | error fault => exact ⟨rfl, rfl, rfl, rfl⟩
  | ok request =>
    simp only [Header.refusal, welcome]
    -- A client that the depot does not know may register, or is turned away.
    by_cases contained : depot.targets.contains request.identity.id = true
    · have known : Depot.contains depot request.identity = true := contained
      simp only [if_pos known, if_pos contained]
      exact owes_acceptItems contained rfl rfl
    · have unknown : ¬ Depot.contains depot request.identity = true := contained
      simp only [if_neg unknown, if_neg contained]
      by_cases admitted : depot.admits request.identity.id = true
      · obtain ⟨notice, store, registered, place, _⟩ := MemoryDepot.register_admitted admitted
        have answer : Depot.register depot request.identity = (.accepted notice, store) := registered
        have known : Depot.contains store request.identity = true := place
        simp only [answer, registered, if_pos known]
        exact owes_acceptItems place rfl rfl
      · have refused : depot.register request.identity =
            (.rejected s!"Registration denied for {request.identity.name} ({request.identity.id})",
              depot) := if_neg admitted
        have answer : Depot.register depot request.identity = _ := refused
        simp only [answer, refused]
        exact ⟨rfl, rfl, rfl, rfl⟩

/--
A server without items answers every request header that it receives with its reply, if the frame of
the reply fits the client's buffer; otherwise it has nothing to answer with. A request header of an
admitted peer that announces an item too long for any memory is not received at all.
-/
theorem responds_receiveHeader (round : Round Parcel) (depot : MemoryDepot) (content : Bytes)
    (kind : Markup) :
    let settings := round.context.settings
    let header := reply round.context depot content
    let frame := headerFrame settings header
    match (round.reset .server).dispatch depot .server .receive .header (some ⟨content, kind⟩) with
    | (.ok closed, received, _) =>
      closed = kind ∧ ¬ Overlong settings.encoding depot content ∧
        let (result, sent) := received.sendHeader .server
        if frame.length ≤ settings.headerCapacity then
          result = .ok .final ∧ sent.responseHeader = header ∧ sent.context.output = frame
        else
          result = .error (.codec (.frame (.tooLarge frame.length settings.headerCapacity))) ∧
            sent.context.output = []
    | (.error fault, _, _) => fault.isFatal = true ∧ Overlong settings.encoding depot content := by
  -- Receiving the header either returns, or meets an item that is overlong.
  have configured : (round.reset .server).context.settings = round.context.settings := rfl
  have answers := fatality_overlong (round.reset .server) depot content
  rw [configured] at answers
  rcases answers with ⟨returned, short⟩ | ⟨fault, lost, fatal, long⟩
  · -- The header is received, and then its reply is owed.
    obtain ⟨settings, owes⟩ := owes_receiveHeader round depot content
    have sends := owes.sendHeader
    rw [settings] at sends
    simp only [dispatch, returned]
    exact ⟨trivial, short, sends⟩
  · simp only [dispatch, lost]
    exact ⟨fatal, long⟩

/--
The wording of a fault can keep a server from answering at all, under settings that are fine and
leave room for every answer without a notice.
-/
theorem unanswered_receiveHeader :
    let settings : Settings := { headerCapacity := 100 }
    let identity : Identity := { id := "s", name := "S" }
    let server : Round Parcel := .ofContext (.initial identity settings)
    let content : Bytes := [0xFF]
    let received := (server.reset .server).receiveHeader ({} : MemoryDepot) .server content
    settings.check = .ok () ∧
      ((settings.writer .header).sealed content .final).length ≤ settings.headerCapacity ∧
      (∀ synchronic denied close : Bool,
        (headerFrame settings { identity, synchronic, denied, close }).length ≤
          settings.headerCapacity) ∧
      (headerFrame settings
        { reply server.context ({} : MemoryDepot) content with notice := none }).length ≤
          settings.headerCapacity ∧
      (received.1.sendHeader .server).1.toOption = none ∧
      (received.1.sendHeader .server).2.context.output = [] := by
  -- Only the answers for all settings of the three flags need a case each.
  refine ⟨by decide, by decide +kernel, ?_, by decide +kernel, by decide +kernel, by decide +kernel⟩
  intro synchronic denied close
  -- A flag takes one byte, whether or not it is set.
  cases synchronic <;> cases denied <;> cases close <;> decide +kernel

end Round

end SentinelRounds
