import SentinelRounds.Depot.Memory
import SentinelRounds.Proofs.Round.Header
import SentinelRounds.Proofs.Round.Leftovers
import SentinelRounds.Proofs.Round.Speaker

/-! A round that has been reset goes on as the first round of a new connection would. -/

namespace SentinelRounds

namespace Round

variable {δ ι : Type}

/-- A round with another peer and another intake attached to it. -/
def attach (peer : Option Identity) (intake : Intake) (round : Round ι) : Round ι :=
  round.onContext fun context => { context with peer, intake }

/-- A round in every detail but its peer and the leftovers in its buffers. -/
def seen (round : Round ι) : Round ι := round.attach none round.context.intake.clean

/--
The first round of a new connection that takes over from a used one: it gets the mode, a denial and a
closing, the bytes that have not been read, and for a client the prepared request.
-/
def renewed (role : Role) (identity : Identity) (settings : Settings) (used : Round ι) : Round ι :=
  let fresh : Round ι := .ofContext (.initial identity settings)
  { fresh with
    context := { fresh.context with
      close := used.context.close
      denied := used.context.denied
      synchronic := used.context.synchronic
      intake := { fresh.context.intake with pending := used.context.intake.unread } }
    request := match role with
      | .client => used.request
      | .server => {} }

/-- The peer that is known once a header frame has been read, if it could be read. -/
def heard (encoding : Encoding) (frame : Bytes) (known : Option Identity) : Option Identity :=
  match readHeader encoding frame with
  | .ok header => some header.identity
  | .error _ => known

section Over

variable (round : Round ι) (peer : Option Identity) (intake : Intake) (role : Role)

/-- A change that looks neither at the peer nor at the intake comes out the same with others. -/
theorem onContext_attach {change : Context → Context}
    (blind : ∀ context : Context,
      change { context with peer, intake } = { change context with peer, intake }) :
    (round.attach peer intake).onContext change = (round.onContext change).attach peer intake := by
  simp only [attach, onContext, blind]

/-- A frame is written whoever the peer is and whatever has been received. -/
theorem writeFrame_attach (phase : Phase) (content : Bytes) (kind : Markup) :
    (round.attach peer intake).writeFrame phase content kind =
      (round.writeFrame phase content kind).map id (attach peer intake) := by
  -- The writer reads the settings and the output only, whatever comes of its frame.
  simp only [writeFrame, Context.writeFrame, attach, onContext]
  cases (round.context.settings.writer phase).write round.context.output content kind <;> rfl

/-- So is a header. -/
theorem sendHeader_attach [Transferable ι] :
    (round.attach peer intake).sendHeader role =
      (round.sendHeader role).map id (attach peer intake) := by
  -- Neither what is announced nor the header made of it looks at the peer.
  have announced : (round.attach peer intake).announcement role = round.announcement role := by
    cases role <;> rfl
  have attached : ∀ items, (round.attach peer intake).announce role items =
      (round.announce role items).attach peer intake := by
    intro items
    cases role <;> rfl
  have header : ∀ items, ((round.announce role items).attach peer intake).outgoingHeader role =
      (round.announce role items).outgoingHeader role := by
    intro items
    cases role <;> rfl
  simp only [sendHeader, announced]
  cases round.announcement role with
  | error fault => rfl
  | ok items =>
    simp only [attached, header]
    exact writeFrame_attach ..

/-- So is a chunk. -/
theorem sendChunk_attach (chunk : Bytes) (kind : Markup) :
    (round.attach peer intake).sendChunk role chunk kind =
      (round.sendChunk role chunk kind).map id (attach peer intake) := by
  -- The outgoing items and the message under way are the same on both sides.
  have noted : (round.attach peer intake).noteChunk role =
      (round.noteChunk role).attach peer intake := by
    cases role <;> rfl
  simp only [sendChunk, noted, writeFrame_attach]
  generalize (round.noteChunk role).writeFrame .message chunk kind = made
  obtain ⟨_ | kind, after⟩ := made
  · rfl
  · -- The item is finished if the chunk was its last.
    have count : ((after.attach peer intake).outgoing role).items = (after.outgoing role).items := by
      cases role <;> rfl
    have finished : ∀ index count : Nat,
        ((after.attach peer intake).onContext fun context => finishSending context index count) =
          (after.onContext fun context => finishSending context index count).attach peer intake := by
      intro index count
      apply onContext_attach
      intro context
      simp only [finishSending]
      split <;> rfl
    simp only [Prod.map, id, count, finished]
    by_cases last : kind = .final
    · simp only [if_pos last]
      rfl
    · simp only [if_neg last]

/-- So is whatever chunk comes next. -/
theorem sendMessage_attach [Transferable ι] :
    (round.attach peer intake).sendMessage role =
      (round.sendMessage role).map id (attach peer intake) := by
  -- Cutting the next chunk reads the outgoing items and the message under way only.
  have outgoing : (round.attach peer intake).outgoing role = round.outgoing role := by
    cases role <;> rfl
  have sending : ∀ base : Round ι, (base.attach peer intake).context.sending = base.context.sending :=
    fun _ => rfl
  have settings : (round.attach peer intake).context.settings = round.context.settings := rfl
  -- The index and the offset are noted before the chunk goes out.
  have noted : ∀ index : Nat, ((round.attach peer intake).onContext fun context =>
      { context with itemIndex := index }) =
        (round.onContext fun context => { context with itemIndex := index }).attach peer intake :=
    fun _ => rfl
  have moved : ∀ (base : Round ι) (offset chunk : Nat),
      ((base.attach peer intake).onContext fun context =>
        { context with sending := { context.sending with offset, chunk } }) =
          (base.onContext fun context =>
            { context with sending := { context.sending with offset, chunk } }).attach peer intake :=
    fun _ _ _ => rfl
  simp only [sendMessage, outgoing, sending, settings, noted, moved]
  cases (round.outgoing role).items[round.context.sending.item]? with
  | none => rfl
  | some item =>
    simp only
    generalize (round.onContext fun context =>
      { context with itemIndex := round.context.sending.item }) = base
    split
    · rfl
    rcases Transferable.serialize item base.context.sending.offset round.context.settings.batchSize
      with ⟨chunk, _ | next⟩
    · exact sendChunk_attach ..
    · simp only
      split
      · rfl
      · exact sendChunk_attach ..

/-- A fault is recorded whoever the peer is and whatever has been received. -/
theorem fault_attach (fault : RoundFault) :
    (round.attach peer intake).fault role fault = (round.fault role fault).attach peer intake := by
  cases role <;> rfl

/-- So are the items of a header that is expected. -/
theorem acceptItems_attach [Depot δ ι] (depot : δ) (header : Header) :
    (round.attach peer intake).acceptItems depot role header =
      (round.acceptItems depot role header).attach peer intake := by
  -- The items are checked and counted, and the flag is cleared, without the peer.
  have allowed : ((round.attach peer intake).onContext fun context =>
      { context with denied := false }) =
        (round.onContext fun context => { context with denied := false }).attach peer intake := rfl
  simp only [acceptItems, allowed, fault_attach, expect_eq]
  split
  · split <;> rfl
  · cases role <;> rfl

/-- A header that can be read replaces the peer, and otherwise the peer has no effect on it. -/
theorem receiveHeader_attach [Depot δ ι] (depot : δ) (frame : Bytes) :
    (round.attach peer intake).receiveHeader depot role frame =
      (round.receiveHeader depot role frame).map
        (attach (heard round.context.settings.encoding frame peer) intake) id := by
  -- Each way to end sets or keeps the peer, and everything else is unaware of it.
  have settings : (round.attach peer intake).context.settings = round.context.settings := rfl
  have adopted : ∀ header, (round.attach peer intake).adopt role header =
      (round.adopt role header).attach (some header.identity) intake := by
    intro header
    cases role <;> rfl
  have denied : ∀ (base : Round ι) known reason, (base.attach known intake).deny role reason =
      (base.deny role reason).attach known intake := by
    intro base known reason
    cases role <;> rfl
  have noticed : ∀ (base : Round ι) known line, (base.attach known intake).appendNotice role line =
      (base.appendNotice role line).attach known intake := by
    intro base known line
    cases role <;> rfl
  simp only [receiveHeader, heard, settings, adopted, denied, noticed, fault_attach,
    acceptItems_attach]
  cases readHeader round.context.settings.encoding frame with
  | error fault => rfl
  | ok header =>
    -- Whatever the verdict on the peer is, the peer is known afterwards.
    simp only
    split
    · rfl
    · split <;> rfl

variable [Transferable ι]

/-- A chunk for a known peer is absorbed whatever has been received, and whoever the peer is. -/
theorem absorbChunk_attach [Depot δ ι] (depot : δ) (sender : Identity) (item : ι) (frame : Bytes)
    (kind : Markup) :
    (round.attach peer intake).absorbChunk depot role sender item frame kind =
      (round.absorbChunk depot role sender item frame kind).map (attach peer intake) id := by
  -- The sender is an argument here, so the peer that the round holds is not read.
  have held : ∀ grown, (round.attach peer intake).hold role grown =
      (round.hold role grown).attach peer intake := by
    intro grown
    cases role <;> rfl
  have counted : ∀ base : Round ι, (base.attach peer intake).count role =
      (base.count role).attach peer intake := by
    intro base
    cases role <;> rfl
  have completes : ∀ base : Round ι, (base.attach peer intake).Completes role kind ↔
      base.Completes role kind := by
    intro base
    cases role <;> exact Iff.rfl
  have finished : ∀ base : Round ι, (base.attach peer intake).onContext finishItem =
      (base.onContext finishItem).attach peer intake := by
    intro base
    apply onContext_attach
    intro context
    simp only [finishItem_eq]
  -- With these, every test is the same on both sides.
  simp only [absorbChunk_eq_hold, held, counted, completes, finished, fault_attach]
  rcases Transferable.absorb item frame with ⟨_ | _, grown⟩
  · rfl
  · simp only
    split
    · rcases Depot.merge depot sender grown with ⟨_ | _, store⟩ <;> rfl
    · rfl

/--
A chunk has the same effect with another intake, and if no chunk is awaited, with another peer too.
-/
theorem receiveMessage_attach [Depot δ ι] (depot : δ) (frame : Bytes) (kind : Markup)
    (known : peer = round.context.peer ∨ round.context.receiving.left = 0) :
    (round.attach peer intake).receiveMessage depot role frame kind =
      (round.receiveMessage depot role frame kind).map (attach peer intake) id := by
  -- The peer is read behind the test whether a chunk is awaited at all.
  have receiving : (round.attach peer intake).context.receiving = round.context.receiving := rfl
  have incoming : (round.attach peer intake).incoming role = round.incoming role := by
    cases role <;> rfl
  simp only [receiveMessage, receiving, incoming, fault_attach]
  by_cases awaited : round.context.receiving.left = 0
  · simp only [if_pos awaited]
    rfl
  · -- The peer is looked at only now.
    have same : (round.attach peer intake).context.peer = round.context.peer :=
      known.resolve_right awaited
    simp only [if_neg awaited, same, absorbChunk_attach]
    split
    · rfl
    · split <;> rfl

end Over

/-- The peer that is known once an operation has been done. -/
def Operation.meets (encoding : Encoding) (known : Option Identity) :
    Operation ι → Option Identity
  -- Only a header introduces a peer.
  | .dispatch .receive .header (some inbound) => heard encoding inbound.frame known
  | _ => known

/-- Whether an operation receives a header that can be answered, and that names a peer. -/
def Operation.Introduces (encoding : Encoding) (operation : Operation ι) : Prop :=
  ∃ inbound header, operation = .dispatch .receive .header (some inbound) ∧
    readHeader encoding inbound.frame = .ok header

/-- After an introduction it does not matter who was known before. -/
theorem Operation.Introduces.meets_eq {encoding : Encoding} {operation : Operation ι}
    (introduces : operation.Introduces encoding) (first second : Option Identity) :
    operation.meets encoding first = operation.meets encoding second := by
  -- The header can be read, so the peer is the one it names.
  obtain ⟨inbound, header, rfl, read⟩ := introduces
  simp only [meets, heard, read]

/-- Rounds that differ at most in leftovers, and in the peer while no item is awaited. -/
structure Twins (first second : Round ι) : Prop where
  seen : first.seen = second.seen
  known : first.context.peer = second.context.peer ∨ first.context.receiving.left = 0

namespace Twins

variable {first second : Round ι}

/-- The one twin is the other with a peer and an intake of its own. -/
theorem eq_attach (twins : Twins first second) :
    second = first.attach second.context.peer second.context.intake := by
  -- Clearing what cannot be seen of both gives one round, from which each is put together.
  have same := congrArg (attach second.context.peer second.context.intake) twins.seen
  exact same.symm

/-- Twins have received the same. -/
theorem intake (twins : Twins first second) :
    first.context.intake.clean = second.context.intake.clean :=
  congrArg (fun round => round.context.intake) twins.seen

/-- A round with another peer and another intake is a twin if nobody can tell. -/
theorem of_attach {round : Round ι} {peer : Option Identity} {intake : Intake}
    (alike : round.context.intake.clean = intake.clean)
    (known : round.context.peer = peer ∨ round.context.receiving.left = 0) :
    Twins round (round.attach peer intake) := by
  -- What is hidden is replaced by the same on both sides.
  refine ⟨?_, known⟩
  show round.attach none round.context.intake.clean = round.attach none intake.clean
  rw [alike]

/-- Twins stay twins if their intakes change alike. -/
theorem attach (twins : Twins first second) {mine theirs : Intake}
    (alike : mine.clean = theirs.clean) :
    Twins (first.attach first.context.peer mine) (second.attach second.context.peer theirs) := by
  -- The new intakes hide the difference of the old ones.
  have same := congrArg (Round.attach none theirs.clean) twins.seen
  refine ⟨?_, twins.known⟩
  show first.attach none mine.clean = second.attach none theirs.clean
  rw [alike]
  exact same

end Twins

/-- A round that was made with some settings for an end, whatever has been done to it since. -/
structure Made (identity : Identity) (settings : Settings) (round : Round ι) : Prop where
  configured : round.context.settings = settings
  named : round.context.identity = identity
  intake : round.context.intake.emptied = .ofSettings settings

/-- A reset round and one that is made anew are twins. -/
theorem Made.twins {identity : Identity} {settings : Settings} {used : Round ι}
    (made : used.Made identity settings) (role : Role) :
    Twins (used.reset role) (used.renewed role identity settings) := by
  -- The renewed round is the reset one with no peer and an intake that starts anew.
  have attached : used.renewed role identity settings = (used.reset role).attach none
      { Intake.ofSettings settings with pending := used.context.intake.unread } := by
    obtain ⟨rfl, rfl, _⟩ := made
    cases role <;> rfl
  rw [attached]
  apply Twins.of_attach _ (.inr rfl)
  show used.context.intake.rewind.clean = _
  rw [Intake.rewind_eq, made.intake]
  rfl

/-- Whether an operation leaves the bytes alone that have been received. -/
def Operation.Spares : Operation ι → Prop
  | .read _ _ | .take _ | .reset => False
  | _ => True

variable [Transferable ι] [Reversible ι] [Depot δ ι]

/--
An operation that leaves the intake alone does the same with another intake, and with another peer
while no item is awaited.
-/
theorem perform_attach (round : Round ι) (role : Role) (depot : δ) {operation : Operation ι}
    (spares : operation.Spares) {peer : Option Identity} (intake : Intake)
    (known : peer = round.context.peer ∨ round.context.receiving.left = 0) :
    let done := round.perform role depot operation
    let met := operation.meets round.context.settings.encoding peer
    (round.attach peer intake).perform role depot operation =
      (done.1, done.2.1.attach met intake, done.2.2) := by
  -- An operation on the intake is excluded, and each of the others was shown apart.
  intro done met
  simp only [done, met]
  cases operation with
  | read phase bytes => cases spares
  | take phase => cases spares
  | reset => cases spares
  | act action =>
    cases action with
    | synchronicIfItems =>
      have count : (round.attach peer intake).requestHeader = round.requestHeader := rfl
      simp only [perform, Action.apply, count]
      split <;> rfl
    | _ => cases role <;> rfl
  | dispatch transit phase inbound =>
    cases transit with
    | send =>
      cases phase with
      | header => cases inbound <;> simp only [perform, dispatch, sendHeader_attach] <;> rfl
      | message => cases inbound <;> simp only [perform, dispatch, sendMessage_attach] <;> rfl
    | receive =>
      cases inbound with
      | none => cases phase <;> rfl
      | some inbound =>
        cases phase with
        | header =>
          -- Whether the header can be received is not up to the peer either.
          have settings : (round.attach peer intake).context.settings = round.context.settings := rfl
          simp only [perform, dispatch, receiveHeader_attach, fatality, settings]
          rfl
        | message =>
          simp only [perform, dispatch, receiveMessage_attach round peer intake role depot _ _ known]
          rfl
  | _ => rfl

/-- No item is awaited after an operation unless one was before, or a peer has been introduced. -/
theorem left_perform (round : Round ι) (role : Role) (depot : δ) (operation : Operation ι)
    (nothing : round.context.receiving.left = 0) :
    (round.perform role depot operation).2.1.context.receiving.left = 0 ∨
      operation.Introduces round.context.settings.encoding := by
  -- Sending does not touch what is received.
  have sent : ∀ {act : Round ι → Except RoundFault Markup × Round ι}, Outgoing role act →
      (act round).2.context.receiving.left = 0 := by
    intro act outgoing
    have kept := outgoing.context_eq round
    exact (congrArg (fun context => context.receiving.left) kept).trans nothing
  -- Nor does a fault.
  have faulted : ∀ fault, (round.fault role fault).context.receiving.left = 0 := by
    intro fault
    cases role <;> exact nothing
  cases operation with
  | read phase bytes =>
    left
    simp only [perform, Context.read]
    split <;> exact nothing
  | act action =>
    left
    exact (action.spared_apply role round).left.trans nothing
  | reset => exact .inl rfl
  | dispatch transit phase inbound =>
    cases transit with
    | send =>
      left
      cases phase with
      | header => cases inbound <;> exact sent (outgoing_sendHeader role)
      | message => cases inbound <;> exact sent (outgoing_sendMessage role)
    | receive =>
      cases inbound with
      | none =>
        left
        cases phase <;> exact nothing
      | some inbound =>
        cases phase with
        | header =>
          cases read : readHeader round.context.settings.encoding inbound.frame with
          | ok header => exact .inr ⟨inbound, header, rfl, read⟩
          | error fault =>
            left
            simp only [perform, dispatch, receiveHeader, read]
            exact faulted fault
        | message =>
          left
          simp only [perform, dispatch, receiveMessage, if_pos nothing]
          exact faulted _
  | _ => exact .inl nothing

/-- What has been received is left alone by an operation that spares it. -/
theorem intake_perform (round : Round ι) (role : Role) (depot : δ) {operation : Operation ι}
    (spares : operation.Spares) :
    let done := (round.perform role depot operation).2.1
    done.context.intake = round.context.intake ∧ done.context.peer =
      operation.meets round.context.settings.encoding round.context.peer := by
  -- A round is itself with its own peer and its own intake.
  have own := perform_attach round role depot spares round.context.intake (.inl rfl)
  have self : round.attach round.context.peer round.context.intake = round := rfl
  rw [self] at own
  have intake := congrArg (fun done => done.2.1.context.intake) own
  have peer := congrArg (fun done => done.2.1.context.peer) own
  exact ⟨intake, peer⟩

/-- Reading is receiving what fits, and changes nothing but the intake. -/
theorem perform_read (round : Round ι) (role : Role) (depot : δ) (phase : Phase) (bytes : Bytes) :
    let fitting := bytes.take (round.context.intake.spare phase)
    let got := round.context.intake.receive phase fitting
    round.perform role depot (.read phase bytes) =
      (.found (got.1.mapError fun offset => .codec (.frame (.missingEscape offset)))
        (got.2.spare phase), round.attach round.context.peer got.2, depot) := by
  -- What does not fit the buffer is not staged, so the search ends with what was staged.
  intro fitting got
  have read : (round.context.stage phase fitting).read phase fitting.length =
      (got.1.mapError fun offset => .codec (.frame (.missingEscape offset)),
        { round.context with intake := got.2 }) := by
    simp only [Context.read]
    have searched : (round.context.stage phase fitting).intake.read phase fitting.length = got := rfl
    rw [searched]
    rcases got with ⟨_ | _, after⟩ <;> rfl
  simp only [perform]
  rw [read]
  rfl

namespace Twins

variable {first second : Round ι}

/-- Twins give one answer to whatever is done to both, and stay twins. -/
theorem perform (twins : Twins first second) (role : Role) (depot : δ) (operation : Operation ι) :
    let one := first.perform role depot operation
    let two := second.perform role depot operation
    let encoding := first.context.settings.encoding
    one.1 = two.1 ∧ one.2.2 = two.2.2 ∧ Twins one.2.1 two.2.1 ∧
      one.2.1.context.peer = operation.meets encoding first.context.peer ∧
      two.2.1.context.peer = operation.meets encoding second.context.peer := by
  -- Operations that spare the intake go by attachment, and the others by what an intake gives.
  intro one two encoding
  have alike := twins.intake
  by_cases spares : operation.Spares
  · -- The second twin does what the first one does, attach its own peer and intake.
    have attached := perform_attach first role depot spares second.context.intake
      (twins.known.imp Eq.symm id)
    rw [← twins.eq_attach] at attached
    obtain ⟨intake, peer⟩ := intake_perform first role depot spares
    have met : operation.meets encoding first.context.peer =
          operation.meets encoding second.context.peer ∨ one.2.1.context.receiving.left = 0 := by
      rcases twins.known with same | nothing
      · exact .inl (congrArg (operation.meets encoding) same)
      · rcases left_perform first role depot operation nothing with still | introduces
        · exact .inr still
        · exact .inl (introduces.meets_eq _ _)
    simp only [two, attached]
    refine ⟨rfl, rfl, ?_, peer, rfl⟩
    apply of_attach
    · rw [intake]
      exact alike
    · rw [peer]
      exact met
  · cases operation with
    | read phase bytes =>
      -- There is room for the same bytes, and they come to the same.
      have room := Intake.spare_clean alike phase
      have fits : (bytes.take (first.context.intake.spare phase)).length ≤
          first.context.intake.spare phase := List.length_take_le _ _
      obtain ⟨found, after⟩ := Intake.receive_clean alike fits
      simp only [one, two, perform_read, ← room, found, Intake.spare_clean after phase, true_and]
      exact ⟨twins.attach after, rfl, rfl⟩
    | take phase =>
      obtain ⟨frame, after⟩ := Intake.takeFrame_clean alike phase
      exact ⟨congrArg Answer.frame frame, rfl, twins.attach after, rfl, rfl⟩
    | reset =>
      -- Nothing is awaited in a new round, so the peers may well be different.
      have attached : second.reset role =
          (first.reset role).attach second.context.peer second.context.intake.rewind := by
        rw [twins.eq_attach]
        cases role <;> rfl
      have after : Twins (first.reset role) (second.reset role) := by
        rw [attached]
        exact of_attach (Intake.rewind_clean alike) (.inr rfl)
      exact ⟨rfl, rfl, after, rfl, rfl⟩
    | dispatch transit phase inbound => exact absurd trivial spares
    | _ => exact absurd trivial spares

/-- Twins stay twins whatever is done to both, and after an introduction they know one peer. -/
theorem performAll {role : Role} {operations : List (Operation ι)} {one two : History δ ι}
    (twins : Twins one.round two.round) (depots : one.depot = two.depot)
    (answers : one.answers = two.answers) :
    let first := one.performAll role operations
    let second := two.performAll role operations
    first.answers = second.answers ∧ first.depot = second.depot ∧
      Twins first.round second.round ∧
      ((one.round.context.peer = two.round.context.peer ∨
          ∃ operation ∈ operations, operation.Introduces one.round.context.settings.encoding) →
        first.round.context.peer = second.round.context.peer) := by
  -- The induction is on the operations that are left.
  induction operations generalizing one two with
  | nil =>
    refine ⟨answers, depots, twins, ?_⟩
    rintro (same | ⟨operation, member, _⟩)
    · exact same
    · cases member
  | cons operation operations ih =>
    obtain ⟨answer, stores, after, met, named⟩ := twins.perform role one.depot operation
    have settings := (settings_perform role one.round one.depot operation).1
    obtain ⟨first, depot, given⟩ := one
    obtain ⟨second, _, _⟩ := two
    simp only at depots answers
    subst depots answers
    have together : given ++ [(first.perform role depot operation).1] =
        given ++ [(second.perform role depot operation).1] := by
      rw [answer]
    obtain ⟨heard, stored, last, acquainted⟩ := @ih
      (History.perform role ⟨first, depot, given⟩ operation)
      (History.perform role ⟨second, depot, given⟩ operation) after stores together
    refine ⟨heard, stored, last, fun known => acquainted ?_⟩
    -- Who is known stays known, and the next operation may be the introduction.
    rcases known with same | ⟨which, member, introduces⟩
    · left
      exact met.trans ((congrArg (operation.meets _) same).trans named.symm)
    · rcases List.mem_cons.mp member with rfl | later
      · left
        exact met.trans ((introduces.meets_eq _ _).trans named.symm)
      · right
        refine ⟨which, later, ?_⟩
        show which.Introduces (first.perform role depot operation).2.1.context.settings.encoding
        rw [settings]
        exact introduces

end Twins

/-- Whatever is done to a round, its intake stays of the same make. -/
theorem emptied_perform (round : Round ι) (role : Role) (depot : δ) (operation : Operation ι) :
    (round.perform role depot operation).2.1.context.intake.emptied =
      round.context.intake.emptied := by
  -- Only reading, taking and resetting touch the intake, and none changes its sizes.
  by_cases spares : operation.Spares
  · rw [(intake_perform round role depot spares).1]
  · cases operation with
    | read phase bytes =>
      rw [perform_read]
      exact Intake.emptied_receive ..
    | take phase => exact Intake.emptied_takeFrame ..
    | reset => exact Intake.emptied_rewind _
    | _ => exact absurd trivial spares

/--
A reset round goes on as the first round of a new connection that takes over from the used one:
whatever is done to both, every answer, the depot, and all that can be seen of the rounds are the
same. Only the peer may differ, until a header that can be answered names one.
-/
theorem reset_renews (role : Role) (identity : Identity) (settings : Settings) (origin depot : δ)
    (past later : List (Operation ι)) :
    let fresh : Round ι := .ofContext (.initial identity settings)
    let used := (History.performAll role { round := fresh, depot := origin } past).round
    let first := History.performAll role { round := used.reset role, depot } later
    let second :=
      History.performAll role { round := used.renewed role identity settings, depot } later
    first.answers = second.answers ∧ first.depot = second.depot ∧
      first.round.seen = second.round.seen ∧
      ((∃ operation ∈ later, operation.Introduces settings.encoding) →
        first.round.context.peer = second.round.context.peer) := by
  -- However the round was used, it is still of the same make.
  intro fresh used first second
  have made : used.Made identity settings := by
    have all : ∀ operation ∈ past, True := fun _ _ => trivial
    apply History.performAll_keeps _ all ⟨rfl, rfl, Intake.emptied_ofSettings settings⟩
    intro round depot operation _ made
    obtain ⟨kept, named⟩ := settings_perform role round depot operation
    refine ⟨kept.trans made.configured, named.trans made.named, ?_⟩
    exact (emptied_perform round role depot operation).trans made.intake
  have start : Twins ({ round := used.reset role, depot } : History δ ι).round
      ({ round := used.renewed role identity settings, depot } : History δ ι).round :=
    made.twins role
  obtain ⟨answers, depots, twins, acquainted⟩ := start.performAll rfl rfl
  refine ⟨answers, depots, twins.seen, fun introduced => acquainted (.inr ?_)⟩
  have configured : (used.reset role).context.settings = settings := made.configured
  rw [configured]
  exact introduced

/--
A server that knew one client and had received part of a message goes on with another client as a new
server would that has received the same bytes.
-/
theorem reset_renews_acquainted :
    let settings : Settings := {}
    let request : String → Inbound := fun id =>
      ⟨settings.encoding.encode Header.schema { identity := { id } }, .final⟩
    let past : List (Operation Parcel) :=
      [.dispatch .receive .header (some (request "a")), .read .message [1, 2]]
    let later : List (Operation Parcel) :=
      [.read .header [3], .dispatch .receive .header (some (request "b")),
        .dispatch .send .header none, .flush]
    let fresh : Round Parcel := .ofContext (.initial { id := "s" } settings)
    let used := (History.performAll .server { round := fresh, depot := ({} : MemoryDepot) } past).round
    let reset := used.reset .server
    let renewed := used.renewed .server { id := "s" } settings
    let first := History.performAll .server { round := reset, depot := ({} : MemoryDepot) } later
    let second := History.performAll .server { round := renewed, depot := ({} : MemoryDepot) } later
    used.context.intake.unread = [1, 2] ∧ reset.context.peer = some { id := "a" } ∧
      renewed.context.peer = none ∧ (∃ operation ∈ later, operation.Introduces settings.encoding) ∧
      first.answers = second.answers ∧ first.depot = second.depot ∧
      first.round.seen = second.round.seen ∧ first.round.context.peer = some { id := "b" } ∧
      second.round.context.peer = some { id := "b" } := by
  -- The general theorem applies, since the second client introduces itself.
  intro settings request past later fresh used reset renewed first second
  have introduced : ∃ operation ∈ later, operation.Introduces settings.encoding := by
    refine ⟨.dispatch .receive .header (some (request "b")), by simp [later], request "b",
      { identity := { id := "b" } }, rfl, ?_⟩
    apply readHeader_encode
    · decide +kernel
    · decide
  obtain ⟨answers, depots, alike, _⟩ :=
    reset_renews .server { id := "s" } settings ({} : MemoryDepot) ({} : MemoryDepot) past later
  -- Who is known is computed: that both are the same would not say that it is the second client.
  exact ⟨by decide +kernel, by decide +kernel, by decide +kernel, introduced, answers, depots, alike,
    by decide +kernel, by decide +kernel⟩

end Round

end SentinelRounds
