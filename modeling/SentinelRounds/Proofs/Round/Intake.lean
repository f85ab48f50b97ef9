import SentinelRounds.Round.Intake
import SentinelRounds.Proofs.Frame.Search

/-! What an intake holds between reads, and what a read makes of it. -/

namespace SentinelRounds

namespace FrameBuffer

/-- Memory that is long enough is not filled up with zeros. -/
theorem firstOf_of_le {count : Nat} {known : Bytes} (enough : count ≤ known.length) :
    firstOf count known = known.take count := by
  rw [firstOf, Nat.sub_eq_zero_of_le enough, List.replicate_zero, List.append_nil]

/-- Staged bytes that fit are received as they are. -/
theorem filled_commit_stage {buffer : FrameBuffer} {bytes : Bytes}
    (fits : bytes.length ≤ buffer.spare) :
    ((buffer.stage bytes).commit bytes.length).filled = buffer.filled ++ bytes := by
  -- The staged bytes stand at the front of the memory that is counted as received.
  have all : min bytes.length (buffer.stage bytes).spare = bytes.length := Nat.min_eq_left fits
  have memory : bytes.length ≤ (bytes ++ buffer.stale.drop bytes.length).length := by
    rw [List.length_append]
    omega
  simp only [commit, all]
  simp only [stage, firstOf_of_le memory, List.take_left]

/-- A buffer receives the front of a source that fills it up. -/
theorem filled_receive (buffer : FrameBuffer) (source : Bytes) :
    (buffer.receive source).filled = buffer.filled ++ source.take buffer.spare := by
  -- Only what fits is staged, so nothing of it is cut off.
  have fits : (source.take buffer.spare).length ≤ buffer.spare := by
    rw [List.length_take]
    omega
  exact filled_commit_stage fits

/-- A buffer and a source are one stream, of which the buffer takes as much as it has capacity for. -/
theorem receive_eq_take {buffer : FrameBuffer} (fits : buffer.filled.length ≤ buffer.capacity)
    (source : Bytes) :
    (buffer.receive source).filled = (buffer.filled ++ source).take buffer.capacity ∧
      source.drop buffer.spare = (buffer.filled ++ source).drop buffer.capacity := by
  -- The buffer has room for what it has received, so it keeps that.
  rw [filled_receive, List.take_append, List.take_of_length_le fits, List.drop_append,
    List.drop_of_length_le fits, List.nil_append]
  exact ⟨rfl, rfl⟩

/-- If no byte of a source moves, it is empty or the buffer is full, and both stay as they are. -/
theorem fillFrom_still {buffer : FrameBuffer} {source : Bytes}
    (still : source.length ≤ (buffer.fillFrom source).2.length) :
    buffer.fillFrom source = (buffer, source) ∧ (source = [] ∨ buffer.spare = 0) := by
  -- As many bytes move as there is room for.
  simp only [fillFrom, List.length_drop] at still
  -- Whatever has room would have moved.
  have none : source = [] ∨ buffer.spare = 0 := by
    rw [← List.length_eq_zero_iff]
    omega
  -- Either way nothing is staged, and nothing is counted.
  rcases none with rfl | full
  · simp [fillFrom, receive, stage, commit, firstOf]
  · simp [fillFrom, receive, stage, commit, firstOf, full]

end FrameBuffer

namespace Lane

/-- A lane has received and searched exactly some bytes, and found nothing in them. -/
structure Holds (capacity runLength : Nat) (held : Bytes) (lane : Lane) : Prop where
  sized : lane.buffer.capacity = capacity
  filled : lane.buffer.filled = held
  fits : held.length ≤ capacity
  scanner : lane.scanner = Scanner.passed runLength held
  quiet : Run.start.Quiet (max runLength 1) held

/-- A new lane holds nothing. -/
theorem holds_ofCapacity (capacity runLength : Nat) :
    (ofCapacity capacity runLength).Holds capacity runLength [] :=
  ⟨rfl, rfl, Nat.zero_le _, rfl, trivial⟩

/-- A flushed lane gives up what it held. -/
theorem Holds.flush {capacity runLength : Nat} {held : Bytes} {lane : Lane}
    (holds : lane.Holds capacity runLength held) :
    lane.flush.1 = held ∧ lane.flush.2.Holds capacity runLength [] := by
  -- The lane is as it was made, apart from its leftovers.
  refine ⟨holds.filled, holds.sized, rfl, Nat.zero_le _, ?_, trivial⟩
  -- A scanner that is reset has passed nothing.
  simp only [Lane.flush, holds.scanner]
  rfl

/-- A search goes on with the bytes that came after those it has passed. -/
theorem scan_eq {runLength : Nat} {held unseen : Bytes} {lane : Lane}
    (scanner : lane.scanner = Scanner.passed runLength held)
    (filled : lane.buffer.filled = held ++ unseen)
    (quiet : Run.start.Quiet (max runLength 1) held) :
    lane.scan =
      match Scanner.firstRun? (max runLength 1) (held ++ unseen) with
      | none => (none, { lane with scanner := Scanner.passed runLength (held ++ unseen) })
      | some (kind, next) =>
        (some ⟨kind, next - max runLength 1, next⟩,
          { lane with scanner := Scanner.passed runLength [] }) := by
  -- The scanner has passed what the lane held, without a run in it.
  simp only [scan, scanner, filled, Scanner.scan_passed quiet]
  -- The buffer is as it was, whatever is found.
  cases Scanner.firstRun? (max runLength 1) (held ++ unseen) with
  | none => rfl
  | some first => rfl

/-- If a pull moves no byte, the queue is empty or the lane is full, and both stay as they are. -/
theorem pull_still {lane : Lane} {queue : Bytes}
    (still : queue.length ≤ (lane.pull queue).2.length) :
    lane.pull queue = (lane, queue) ∧ (queue = [] ∨ lane.buffer.spare = 0) := by
  -- It is the buffer that is filled from the queue.
  obtain ⟨same, stuck⟩ := FrameBuffer.fillFrom_still still
  refine ⟨?_, stuck⟩
  -- The scanner and the frame of a lane take no part in a pull.
  simp only [pull, same]

end Lane

namespace Intake

/-- One phase holds some bytes and the other holds none. -/
def only (phase : Phase) (held : Bytes) (other : Phase) : Bytes :=
  if other = phase then held else []

/-- No bytes in one phase are no bytes in either. -/
@[simp] theorem only_nil (phase : Phase) : only phase [] = fun _ => [] := by
  -- Whatever the other phase is, nothing is in it.
  funext other
  simp [only]

/-- An intake whose lanes have received and searched exactly some bytes, with a queue before them. -/
structure Holds (settings : Settings) (held : Phase → Bytes) (pending : Bytes)
    (intake : Intake) : Prop where
  runLength : intake.runLength = settings.runLength
  lane : ∀ phase, (intake.lane phase).Holds (settings.capacity phase) settings.runLength
    (held phase)
  pending : intake.pending = pending

@[simp] theorem lane_setLane_same (intake : Intake) (phase : Phase) (lane : Lane) :
    (intake.setLane phase lane).lane phase = lane := by
  cases phase <;> rfl

@[simp] theorem lane_setLane_other {phase other : Phase} (differs : other ≠ phase)
    (intake : Intake) (lane : Lane) :
    (intake.setLane phase lane).lane other = intake.lane other := by
  cases phase <;> cases other <;> first | rfl | exact absurd rfl differs

@[simp] theorem runLength_setLane (intake : Intake) (phase : Phase) (lane : Lane) :
    (intake.setLane phase lane).runLength = intake.runLength := by
  cases phase <;> rfl

@[simp] theorem pending_setLane (intake : Intake) (phase : Phase) (lane : Lane) :
    (intake.setLane phase lane).pending = intake.pending := by
  cases phase <;> rfl

/-- An intake that has received nothing holds nothing. -/
theorem holds_ofSettings (settings : Settings) :
    (ofSettings settings).Holds settings (fun _ => []) [] := by
  -- Both lanes are fresh, with the capacity of their phase.
  refine ⟨rfl, fun phase => ?_, rfl⟩
  cases phase <;> exact Lane.holds_ofCapacity _ _

/-- Replacing the lane of a phase and the queue leaves the other lane as it was. -/
theorem Holds.replace {settings : Settings} {phase : Phase} {held pending bytes : Bytes}
    {intake : Intake} {lane : Lane} (holds : intake.Holds settings (only phase held) pending)
    (fresh : lane.Holds (settings.capacity phase) settings.runLength bytes) (queue : Bytes) :
    ({ intake with pending := queue }.setLane phase lane).Holds settings (only phase bytes)
      queue := by
  -- The lane that is replaced holds the new bytes, and the other one is empty before and after.
  refine ⟨by rw [runLength_setLane]; exact holds.runLength, fun other => ?_, pending_setLane _ _ _⟩
  by_cases same : other = phase
  · subst same
    rw [lane_setLane_same]
    simpa [only] using fresh
  · rw [lane_setLane_other same]
    have kept := holds.lane other
    simp only [only, if_neg same] at kept ⊢
    exact kept

/-- Preparing for the next round puts what the lanes hold in front of the queue. -/
theorem Holds.rewind {settings : Settings} {held : Phase → Bytes} {pending : Bytes}
    {intake : Intake} (holds : intake.Holds settings held pending) :
    intake.rewind.Holds settings (fun _ => []) (held .header ++ held .message ++ pending) := by
  -- Both lanes are flushed, the one for headers first.
  obtain ⟨headerRest, header⟩ := (holds.lane .header).flush
  obtain ⟨messageRest, message⟩ := (holds.lane .message).flush
  refine ⟨holds.runLength, fun phase => ?_, ?_⟩
  · cases phase with
    | header => exact header
    | message => exact message
  · simp only [Intake.rewind]
    rw [← headerRest, ← messageRest, ← holds.pending]
    rfl

/-- Taking the frame of a phase leaves what the lanes hold. -/
theorem Holds.takeFrame {settings : Settings} {held : Phase → Bytes} {pending : Bytes}
    {intake : Intake} (holds : intake.Holds settings held pending) (phase : Phase) :
    (intake.takeFrame phase).2.Holds settings held pending := by
  -- The queue and the other lane stay as they are.
  refine ⟨by simp only [Intake.takeFrame, runLength_setLane, holds.runLength], fun other => ?_,
    by simp only [Intake.takeFrame, pending_setLane, holds.pending]⟩
  have kept := holds.lane other
  -- Only the frame of the lane changes.
  by_cases same : other = phase
  · subst same
    simp only [Intake.takeFrame, lane_setLane_same]
    exact ⟨kept.sized, kept.filled, kept.fits, kept.scanner, kept.quiet⟩
  · simp only [Intake.takeFrame, lane_setLane_other same]
    exact kept

/-- The free space of a phase is what its capacity leaves. -/
theorem Holds.spare {settings : Settings} {held : Phase → Bytes} {pending : Bytes}
    {intake : Intake} (holds : intake.Holds settings held pending) (phase : Phase) :
    intake.spare phase = settings.capacity phase - (held phase).length := by
  -- The lane has the capacity of its phase, and holds the bytes.
  have lane := holds.lane phase
  rw [Intake.spare, FrameBuffer.spare, lane.sized, lane.filled]

/--
A located frame is cut out of its lane, which is then empty; all bytes after its terminator go in
front of the queue, whether or not the frame can be read.
-/
theorem Holds.deliver {settings : Settings} {phase : Phase} {held pending : Bytes}
    {intake : Intake} {lane : Lane} {kind : Markup} {frameLength next : Nat}
    (holds : intake.Holds settings (only phase held) pending)
    (capacity : lane.buffer.capacity = settings.capacity phase)
    (scanner : lane.scanner = Scanner.passed settings.runLength [])
    (within : frameLength ≤ lane.buffer.filled.length) (queue : Bytes) :
    ∃ after, after.Holds settings (only phase []) (lane.buffer.filled.drop next ++ queue) ∧
      match Escape.decode settings.runLength (lane.buffer.filled.take frameLength) with
      | .ok content =>
        intake.deliver phase lane queue ⟨kind, frameLength, next⟩ = (.ok (some kind), after) ∧
          (after.lane phase).frame = some content
      | .error offset =>
        intake.deliver phase lane queue ⟨kind, frameLength, next⟩ = (.error offset, after) := by
  -- The frame lies within what was received, so it is read as it stands.
  have memory : frameLength ≤ (lane.buffer.filled ++ lane.buffer.stale).length := by
    rw [List.length_append]
    omega
  have frame : (lane.buffer.splitFrame frameLength next).1 =
      lane.buffer.filled.take frameLength := by
    simp only [FrameBuffer.splitFrame, FrameBuffer.firstOf_of_le memory,
      List.take_append_of_le_length within]
  -- Whether the frame is taken or not, nothing is left in the lane.
  have empty : ∀ frame, Lane.Holds (settings.capacity phase) settings.runLength []
      { lane with
        buffer := (lane.buffer.splitFrame frameLength next).2.drain.2
        frame } :=
    fun _ => ⟨capacity, rfl, Nat.zero_le _, scanner, trivial⟩
  cases decoded : Escape.decode settings.runLength (lane.buffer.filled.take frameLength) with
  | ok content =>
    refine ⟨_, holds.replace (empty (some content)) _, ?_, ?_⟩
    · simp only [Intake.deliver, frame, holds.runLength, decoded]
      rfl
    · rw [lane_setLane_same]
  | error offset =>
    refine ⟨_, holds.replace (empty lane.frame) _, ?_⟩
    simp only [Intake.deliver, frame, holds.runLength, decoded]
    rfl

/--
What a read finds in the first bytes of a stream that fit the lane: the frame before the first full
run, or nothing, and then the lane holds all of these bytes.
-/
def Finds (settings : Settings) (phase : Phase) (stream : Bytes)
    (outcome : Except Nat (Option Markup) × Intake) : Prop :=
  let runLength := max settings.runLength 1
  let window := stream.take (settings.capacity phase)
  match Scanner.firstRun? runLength window with
  | none =>
    outcome.1 = .ok none ∧
      outcome.2.Holds settings (only phase window) (stream.drop (settings.capacity phase))
  | some (kind, next) =>
    outcome.2.Holds settings (only phase []) (stream.drop next) ∧
      match Escape.decode settings.runLength (stream.take (next - runLength)) with
      | .ok content =>
        outcome.1 = .ok (some kind) ∧ (outcome.2.lane phase).frame = some content
      | .error offset => outcome.1 = .error offset

/-- A read finds the frame of a located terminator. -/
theorem Holds.finds_deliver {settings : Settings} {phase : Phase} {held pending : Bytes}
    {intake : Intake} {lane : Lane} {kind : Markup} {next : Nat}
    (holds : intake.Holds settings (only phase held) pending)
    (scanner : lane.scanner = Scanner.passed settings.runLength [])
    (sized : lane.buffer.capacity = settings.capacity phase)
    (fits : lane.buffer.filled.length ≤ settings.capacity phase)
    (found : Scanner.firstRun? (max settings.runLength 1) lane.buffer.filled = some (kind, next))
    (queue : Bytes) :
    Finds settings phase (lane.buffer.filled ++ queue)
      (intake.deliver phase lane queue ⟨kind, next - max settings.runLength 1, next⟩) := by
  -- The run has at least one byte, so the frame ends before it does.
  have positive : 0 < max settings.runLength 1 := by omega
  obtain ⟨_, within⟩ := Scanner.firstRun?_bounds positive found
  -- The bytes that fit the lane begin with those the frame was found in.
  have window : (lane.buffer.filled ++ queue).take (settings.capacity phase) =
      lane.buffer.filled ++ queue.take (settings.capacity phase - lane.buffer.filled.length) := by
    rw [List.take_append, List.take_of_length_le fits]
  obtain ⟨after, kept, delivered⟩ :=
    holds.deliver sized scanner (Nat.le_trans (Nat.sub_le next _) within) queue
  simp only [Finds, window, Scanner.firstRun?_append positive found]
  rw [List.drop_append_of_le_length within,
    List.take_append_of_le_length (Nat.le_trans (Nat.sub_le _ _) within)]
  -- A frame whose escapes are not in order is gone from the stream all the same.
  cases decoded : Escape.decode settings.runLength
      (lane.buffer.filled.take (next - max settings.runLength 1)) with
  | ok content =>
    rw [decoded] at delivered
    obtain ⟨made, frame⟩ := delivered
    rw [made]
    exact ⟨kept, rfl, frame⟩
  | error offset =>
    rw [decoded] at delivered
    have made := delivered
    rw [made]
    exact ⟨kept, rfl⟩

/-- A read that finds nothing leaves its window in the lane. -/
theorem Holds.finds_nothing {settings : Settings} {phase : Phase} {held pending stream : Bytes}
    {intake : Intake} {lane : Lane}
    (holds : intake.Holds settings (only phase held) pending)
    (fresh : lane.Holds (settings.capacity phase) settings.runLength
      (stream.take (settings.capacity phase))) :
    Finds settings phase stream
      (.ok none, { intake with pending := stream.drop (settings.capacity phase) }.setLane phase
        lane) := by
  -- The window is quiet, so no full run ends in it.
  have positive : 0 < max settings.runLength 1 := by omega
  simp only [Finds, (Scanner.firstRun?_eq_none_iff positive).mpr fresh.quiet, true_and]
  exact holds.replace fresh _

/--
A lane in which nothing was found is filled up from the queue, and searched again unless the queue
has nothing to give.
-/
theorem Holds.finds_pulled {settings : Settings} {phase : Phase} {held pending : Bytes}
    {intake : Intake} (holds : intake.Holds settings (only phase held) pending) (lane : Lane)
    (sized : lane.buffer.capacity = settings.capacity phase)
    (fits : lane.buffer.filled.length ≤ settings.capacity phase)
    (scanner : lane.scanner = Scanner.passed settings.runLength lane.buffer.filled)
    (quiet : Run.start.Quiet (max settings.runLength 1) lane.buffer.filled) :
    Finds settings phase (lane.buffer.filled ++ pending)
      (let (lane, queue) := lane.pull pending
        if queue.length = pending.length then (.ok none, intake.setLane phase lane)
        else
          match lane.scan with
          | (some found, lane) => intake.deliver phase lane queue found
          | (none, lane) => (.ok none, { intake with pending := queue }.setLane phase lane)) := by
  -- The run has at least one byte.
  have positive : 0 < max settings.runLength 1 := by omega
  -- The lane and the queue share out the stream at the capacity of the lane.
  have room : lane.buffer.filled.length ≤ lane.buffer.capacity := by
    rw [sized]
    exact fits
  obtain ⟨received, rest⟩ := FrameBuffer.receive_eq_take room pending
  rw [sized] at received rest
  have bound : ((lane.buffer.filled ++ pending).take (settings.capacity phase)).length ≤
      settings.capacity phase := List.length_take_le _ _
  have window : (lane.buffer.filled ++ pending).take (settings.capacity phase) =
      lane.buffer.filled ++ pending.take lane.buffer.spare := by
    rw [← received, FrameBuffer.filled_receive]
  have pulled : lane.pull pending =
      ({ lane with buffer := lane.buffer.receive pending }, pending.drop lane.buffer.spare) := rfl
  simp only [pulled]
  split
  · -- Nothing has moved, so the lane is full or the queue is empty.
    rename_i still
    obtain ⟨same, _⟩ := Lane.pull_still (Nat.le_of_eq still.symm)
    rw [pulled, Prod.mk.injEq] at same
    obtain ⟨kept, all⟩ := same
    have stays : lane.buffer.receive pending = lane.buffer := congrArg Lane.buffer kept
    rw [stays] at received
    have fresh : Lane.Holds (settings.capacity phase) settings.runLength
        ((lane.buffer.filled ++ pending).take (settings.capacity phase)) lane :=
      ⟨sized, received, bound, by rw [← received]; exact scanner, by rw [← received]; exact quiet⟩
    have nothing := holds.finds_nothing fresh
    have whole : ({ intake with pending } : Intake) = intake := by rw [← holds.pending]
    rw [kept]
    rwa [← rest, all, whole] at nothing
  · -- The bytes that came from the queue are searched as well.
    have searched : ({ lane with buffer := lane.buffer.receive pending } : Lane).scan = _ :=
      Lane.scan_eq scanner (received.trans window) quiet
    rw [searched, ← window]
    cases second : Scanner.firstRun? (max settings.runLength 1)
        ((lane.buffer.filled ++ pending).take (settings.capacity phase)) with
    -- The frame is complete now, and what the queue has kept stays behind it.
    | some found =>
      obtain ⟨kind, next⟩ := found
      have reset : ({ lane with
          buffer := lane.buffer.receive pending
          scanner := Scanner.passed settings.runLength [] } : Lane).scanner =
        Scanner.passed settings.runLength [] := rfl
      rw [← received] at second bound
      have found := holds.finds_deliver reset sized bound second (pending.drop lane.buffer.spare)
      have whole : (lane.buffer.receive pending).filled ++ pending.drop lane.buffer.spare =
          lane.buffer.filled ++ pending := by
        rw [received, rest, List.take_append_drop]
      rwa [whole] at found
    -- The whole window has been searched in vain.
    | none =>
      have fresh : Lane.Holds (settings.capacity phase) settings.runLength
          ((lane.buffer.filled ++ pending).take (settings.capacity phase))
          { lane with
            buffer := lane.buffer.receive pending
            scanner := Scanner.passed settings.runLength
              ((lane.buffer.filled ++ pending).take (settings.capacity phase)) } :=
        ⟨sized, received, bound, rfl, (Scanner.firstRun?_eq_none_iff positive).mp second⟩
      have nothing := holds.finds_nothing fresh
      rwa [← rest] at nothing

/--
A read looks through what the lane held, what has just been received, and the queue, in this order,
as far as they fit the lane.
-/
theorem Holds.finds_read {settings : Settings} {phase : Phase} {held arrived pending : Bytes}
    {intake : Intake} {received : Nat}
    (holds : intake.Holds settings (only phase held) pending)
    (filled : ((intake.lane phase).buffer.commit received).filled = held ++ arrived)
    (fits : held.length + arrived.length ≤ settings.capacity phase) :
    Finds settings phase (held ++ arrived ++ pending) (intake.read phase received) := by
  -- The run has at least one byte.
  have positive : 0 < max settings.runLength 1 := by omega
  have kept := holds.lane phase
  simp only [only, if_true] at kept
  rw [Intake.read]
  simp only [holds.pending]
  -- The lane once the received bytes are counted.
  generalize counted : ({ intake.lane phase with
    buffer := (intake.lane phase).buffer.commit received } : Lane) = lane
  have sized : lane.buffer.capacity = settings.capacity phase := by rw [← counted, ← kept.sized]; rfl
  have scanner : lane.scanner = Scanner.passed settings.runLength held := by
    rw [← counted, ← kept.scanner]
  replace filled : lane.buffer.filled = held ++ arrived := by rw [← counted, ← filled]
  have within : lane.buffer.filled.length ≤ settings.capacity phase := by
    rw [filled, List.length_append]
    exact fits
  rw [Lane.scan_eq scanner filled kept.quiet, ← filled]
  cases first : Scanner.firstRun? (max settings.runLength 1) lane.buffer.filled with
  | some found =>
    -- The frame is complete without the queue.
    obtain ⟨kind, next⟩ := found
    have reset : ({ lane with scanner := Scanner.passed settings.runLength [] } : Lane).scanner =
        Scanner.passed settings.runLength [] := rfl
    exact holds.finds_deliver reset sized within first pending
  | none =>
    -- The scanner has passed what was received, and the queue is next.
    have quiet := (Scanner.firstRun?_eq_none_iff positive).mp first
    exact holds.finds_pulled
      { lane with scanner := Scanner.passed settings.runLength lane.buffer.filled } sized within rfl
      quiet

/-- A read that receives some bytes looks through what the lane held, these bytes and the queue. -/
theorem Holds.finds_receive {settings : Settings} {phase : Phase} {held arrived pending : Bytes}
    {intake : Intake} (holds : intake.Holds settings (only phase held) pending)
    (fits : held.length + arrived.length ≤ settings.capacity phase) :
    Finds settings phase (held ++ arrived ++ pending) (intake.receive phase arrived) := by
  -- The lane of the phase is the one that holds the bytes.
  have kept := holds.lane phase
  simp only [only, if_true] at kept
  -- What fits the lane fits its free space.
  have room : arrived.length ≤ (intake.lane phase).buffer.spare := by
    rw [FrameBuffer.spare, kept.sized, kept.filled]
    omega
  -- Staged bytes do not count until they are received.
  have staged : (intake.stage phase arrived).Holds settings (only phase held) pending := by
    have same : Lane.Holds (settings.capacity phase) settings.runLength held
        { intake.lane phase with buffer := (intake.lane phase).buffer.stage arrived } :=
      ⟨kept.sized, kept.filled, kept.fits, kept.scanner, kept.quiet⟩
    have replaced := holds.replace same pending
    rw [← holds.pending] at replaced ⊢
    exact replaced
  refine staged.finds_read ?_ fits
  rw [Intake.stage, lane_setLane_same, ← kept.filled]
  exact FrameBuffer.filled_commit_stage room

end Intake

end SentinelRounds
