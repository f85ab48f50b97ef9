import SentinelRounds.Depot.Memory
import SentinelRounds.Proofs.Round.Sides

/-! In whatever order a round receives and sends, it ends as one that receives everything first. -/

namespace SentinelRounds

namespace Round

variable {δ ι : Type}

/-- One turn of a round between its two directions. -/
inductive Turn
  /-- A chunk comes in. -/
  | receive (chunk : Inbound)
  /-- A header or the next chunk is made to go out. -/
  | send (phase : Phase)
  deriving DecidableEq, Repr

namespace Turn

/-- The chunk that comes in. -/
def chunk? : Turn → Option Inbound
  | .receive chunk => some chunk
  | .send _ => none

/-- The phase in which something is made to go out. -/
def phase? : Turn → Option Phase
  | .receive _ => none
  | .send phase => some phase

end Turn

/-- What some turns have led to, and how each direction has been answered. -/
structure Course (δ ι : Type) where
  round : Round ι
  depot : δ
  received : List (Except RoundFault Markup) := []
  sent : List (Except RoundFault Markup) := []

namespace Course

section

variable [Transferable ι] [Depot δ ι]

/-- One more turn. -/
def play (role : Role) (course : Course δ ι) : Turn → Course δ ι
  | .receive chunk =>
    let (answer, round, depot) :=
      course.round.dispatch course.depot role .receive .message (some chunk)
    { course with round, depot, received := course.received ++ [answer] }
  | .send phase =>
    let (answer, round, depot) := course.round.dispatch course.depot role .send phase none
    { course with round, depot, sent := course.sent ++ [answer] }

/-- Some more turns, one after the other. -/
def playAll (role : Role) (course : Course δ ι) (turns : List Turn) : Course δ ι :=
  turns.foldl (play role) course

end

/-- A course has the incoming side of one course, and the outgoing side of another. -/
structure Joins (role : Role) (receives sends course : Course δ ι) : Prop where
  incoming : course.round.incomingSide role = receives.round.incomingSide role
  depot : course.depot = receives.depot
  received : course.received = receives.received
  outgoing : course.round.outgoingSide role = sends.round.outgoingSide role
  sent : course.sent = sends.sent

end Course

variable [Transferable ι] [Depot δ ι]

/-- Whether none of some chunks causes a fault when nothing else happens. -/
def Faultless (role : Role) : List Inbound → Round ι → δ → Prop
  -- Every fault is counted among the errors.
  | [], _, _ => True
  | chunk :: rest, round, depot =>
    let after := round.receiveMessage depot role chunk.frame chunk.kind
    after.1.context.errors = round.context.errors ∧ Faultless role rest after.1 after.2

instance decidableFaultless (role : Role) :
    ∀ (chunks : List Inbound) (round : Round ι) (depot : δ),
      Decidable (Faultless role chunks round depot)
  | [], _, _ => isTrue trivial
  | _ :: rest, _, _ => @instDecidableAnd _ _ _ (decidableFaultless role rest _ _)

namespace Course

variable {role : Role} {receives sends course : Course δ ι}

/-- A chunk without a fault is received by the incoming side alone. -/
theorem Joins.receive (joins : Joins role receives sends course) {chunk : Inbound}
    (unfaulted : (receives.round.receiveMessage receives.depot role chunk.frame
      chunk.kind).1.context.errors = receives.round.context.errors) :
    Joins role (receives.play role (.receive chunk)) sends (course.play role (.receive chunk)) := by
  -- The chunk does to the course what it does to the run that receives alone.
  obtain ⟨incoming, depot, received, outgoing, sent⟩ := joins
  obtain ⟨side, store⟩ :=
    receiveMessage_incomingSide course.depot chunk.frame chunk.kind incoming
  -- Errors are on the incoming side, so the course sees no fault either.
  have errors : ∀ {round other : Round ι}, round.incomingSide role = other.incomingSide role →
      round.context.errors = other.context.errors := by
    intro round other same
    have counted := congrArg (fun round : Round ι => round.context.errors) same
    cases role <;> exact counted
  have still : (course.round.receiveMessage course.depot role chunk.frame
      chunk.kind).1.context.errors = course.round.context.errors := by
    rw [errors side, depot, unfaulted, errors incoming]
  rw [depot] at side store still
  refine ⟨?_, ?_, ?_, ?_, sent⟩
  · simpa only [play, dispatch, depot] using side
  · simpa only [play, dispatch, depot] using store
  · simp only [play, dispatch, received]
  · simp only [play, dispatch, depot]
    exact (receiveMessage_outgoingSide still).trans outgoing

/-- Something goes out from the outgoing side alone. -/
theorem Joins.send (joins : Joins role receives sends course) (phase : Phase) :
    Joins role receives (sends.play role (.send phase)) (course.play role (.send phase)) := by
  -- What is sent depends on the outgoing side, which is the one of the other run.
  obtain ⟨incoming, depot, received, outgoing, sent⟩ := joins
  cases phase with
  | header =>
    obtain ⟨answer, side⟩ := (outgoing_sendHeader role).congr outgoing
    have apart := (outgoing_sendHeader role).apart course.round
    exact ⟨apart.trans incoming, depot, received, side, by simp only [play, dispatch, sent, answer]⟩
  | message =>
    obtain ⟨answer, side⟩ := (outgoing_sendMessage role).congr outgoing
    have apart := (outgoing_sendMessage role).apart course.round
    exact ⟨apart.trans incoming, depot, received, side, by simp only [play, dispatch, sent, answer]⟩

/-- Whatever turns are taken, each direction is left as it would be alone. -/
theorem Joins.playAll (turns : List Turn) (joins : Joins role receives sends course)
    (faultless : Faultless role (turns.filterMap Turn.chunk?) receives.round receives.depot) :
    Joins role (receives.playAll role ((turns.filterMap Turn.chunk?).map .receive))
      (sends.playAll role ((turns.filterMap Turn.phase?).map .send)) (course.playAll role turns) := by
  -- Each turn moves the course together with one of the other two.
  induction turns generalizing receives sends course with
  | nil => exact joins
  | cons turn turns ih =>
    cases turn with
    | receive chunk =>
      obtain ⟨unfaulted, rest⟩ := faultless
      exact ih (joins.receive unfaulted) rest
    | send phase => exact ih (joins.send phase) faultless

/--
The two directions of a round commute.

Chunks that cause no fault when they are received alone may be interleaved with whatever is sent, in
any order that keeps each direction's own: every answer, the bytes to go out, the depot, and
everything in the round but the item touched last are as if all chunks had been received first.
-/
theorem playAll_interleaved (role : Role) (round : Round ι) (depot : δ) {chunks : List Inbound}
    (faultless : Faultless role chunks round depot) (phases : List Phase) {turns : List Turn}
    (received : turns.filterMap Turn.chunk? = chunks)
    (sent : turns.filterMap Turn.phase? = phases) :
    let mixed := playAll role { round, depot } turns
    let apart := playAll role { round, depot } (chunks.map .receive ++ phases.map .send)
    mixed.received = apart.received ∧ mixed.sent = apart.sent ∧ mixed.depot = apart.depot ∧
      mixed.round.context.output = apart.round.context.output ∧
      (mixed.round.onContext fun context =>
        { context with itemIndex := apart.round.context.itemIndex }) = apart.round := by
  -- Both orders join the two runs that each have one direction only.
  intro mixed apart
  have start : Joins role { round, depot } { round, depot } ({ round, depot } : Course δ ι) :=
    ⟨rfl, rfl, rfl, rfl, rfl⟩
  -- Receiving first and sending then is an interleaving of the two as well.
  have chunked : (chunks.map Turn.receive ++ phases.map Turn.send).filterMap Turn.chunk? =
      chunks := by
    simp [List.filterMap_append, List.filterMap_map, Function.comp_def, Turn.chunk?]
  have phased : (chunks.map Turn.receive ++ phases.map Turn.send).filterMap Turn.phase? =
      phases := by
    simp [List.filterMap_append, List.filterMap_map, Function.comp_def, Turn.phase?]
  have left := start.playAll turns (by rw [received]; exact faultless)
  have right := start.playAll (chunks.map .receive ++ phases.map .send)
    (by rw [chunked]; exact faultless)
  rw [received, sent] at left
  rw [chunked, phased] at right
  have same : (mixed.round.onContext fun context =>
      { context with itemIndex := apart.round.context.itemIndex }) = apart.round :=
    eq_of_sides (left.incoming.trans right.incoming.symm) (left.outgoing.trans right.outgoing.symm)
  have output := congrArg (fun round : Round ι => round.context.output) same
  exact ⟨left.received.trans right.received.symm, left.sent.trans right.sent.symm,
    left.depot.trans right.depot.symm, output, same⟩

/-- A server whose header goes out between two chunks, and whose message goes out after them. -/
theorem playAll_interleaved_halfway :
    let header : Header :=
      { identity := { id := "c" }, items := [⟨"a", 2, 2⟩], itemsCount := 1, chunksCount := 2 }
    let prepared : Round Parcel :=
      (Round.ofContext (.initial { id := "s" } {})).setOutgoing .server (.ofItems [⟨"b", [3]⟩])
    let accepted := prepared.receiveHeader ({} : MemoryDepot) .server
      (Encoding.binary.encode Header.schema header)
    let chunks : List Inbound := [⟨[1], .block⟩, ⟨[2], .final⟩]
    let turns : List Turn :=
      [.receive ⟨[1], .block⟩, .send .header, .receive ⟨[2], .final⟩, .send .message]
    let mixed := playAll .server { round := accepted.1, depot := accepted.2 } turns
    let apart := playAll .server { round := accepted.1, depot := accepted.2 }
      (chunks.map .receive ++ [Phase.header, .message].map .send)
    Faultless .server chunks accepted.1 accepted.2 ∧ mixed.received = apart.received ∧
      mixed.sent = apart.sent ∧ mixed.depot = apart.depot ∧
      mixed.depot.get? "c" "a" = some ⟨"a", [1, 2]⟩ := by
  -- Whether a chunk causes a fault is evaluated.
  intro header prepared accepted chunks turns mixed apart
  have faultless : Faultless .server chunks accepted.1 accepted.2 := by decide +kernel
  obtain ⟨received, sent, depot, _⟩ := playAll_interleaved .server accepted.1 accepted.2 faultless
    [.header, .message] (show turns.filterMap Turn.chunk? = chunks from rfl) rfl
  exact ⟨faultless, received, sent, depot, by decide +kernel⟩

end Course

end Round

end SentinelRounds
