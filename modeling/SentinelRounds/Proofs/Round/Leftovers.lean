import SentinelRounds.Proofs.Round.Intake

/-! What a receive buffer keeps of older contents has no effect on what is received later. -/

namespace SentinelRounds

namespace FrameBuffer

/-- A buffer without the leftovers of older contents. -/
def clean (buffer : FrameBuffer) : FrameBuffer := { buffer with stale := [] }

/-- Buffers that differ in leftovers only have one size and have received the same bytes. -/
theorem clean_eq_iff {first second : FrameBuffer} :
    first.clean = second.clean ↔
      first.capacity = second.capacity ∧ first.filled = second.filled := by
  simp [clean]

/-- Leftovers take no room. -/
theorem spare_clean {first second : FrameBuffer} (same : first.clean = second.clean) :
    first.spare = second.spare := by
  -- The room is what the capacity leaves of the received bytes.
  obtain ⟨capacity, filled⟩ := clean_eq_iff.mp same
  rw [spare, spare, capacity, filled]

/-- Bytes that fit are received whatever was left over. -/
theorem commit_clean {first second : FrameBuffer} (same : first.clean = second.clean)
    {bytes : Bytes} (fits : bytes.length ≤ first.spare) :
    ((first.stage bytes).commit bytes.length).clean =
      ((second.stage bytes).commit bytes.length).clean := by
  -- All of the bytes that count as received have just been staged.
  have room : bytes.length ≤ second.spare := by
    rw [← spare_clean same]
    exact fits
  obtain ⟨capacity, filled⟩ := clean_eq_iff.mp same
  apply clean_eq_iff.mpr
  rw [filled_commit_stage fits, filled_commit_stage room, filled]
  exact ⟨capacity, rfl⟩

/-- So are the bytes that come from a source. -/
theorem receive_clean {first second : FrameBuffer} (same : first.clean = second.clean)
    (source : Bytes) : (first.receive source).clean = (second.receive source).clean := by
  -- As many bytes are taken as there is room for, which is the same in both.
  have fits : (source.take first.spare).length ≤ first.spare := List.length_take_le _ _
  unfold receive
  rw [← spare_clean same]
  exact commit_clean same fits

/-- A frame that lies within the received bytes is cut out of them, whatever was left over. -/
theorem splitFrame_clean {first second : FrameBuffer} (same : first.clean = second.clean)
    {frameLength : Nat} (within : frameLength ≤ first.filled.length) (next : Nat) :
    (first.splitFrame frameLength next).1 = (second.splitFrame frameLength next).1 ∧
      (first.splitFrame frameLength next).2.clean =
        (second.splitFrame frameLength next).2.clean := by
  -- The received bytes are the same in both.
  obtain ⟨capacity, filled⟩ := clean_eq_iff.mp same
  -- Leftovers stand behind the received bytes, where the frame does not reach.
  have cut : ∀ buffer : FrameBuffer, frameLength ≤ buffer.filled.length →
      (buffer.splitFrame frameLength next).1 = buffer.filled.take frameLength := by
    intro buffer within
    have memory : frameLength ≤ (buffer.filled ++ buffer.stale).length := by
      rw [List.length_append]
      omega
    simp only [splitFrame, firstOf_of_le memory, List.take_append_of_le_length within]
  refine ⟨?_, ?_⟩
  · rw [cut first within, cut second (by rw [← filled]; exact within), filled]
  · apply clean_eq_iff.mpr
    simp only [splitFrame, filled, and_true]
    exact capacity

/-- A buffer gives up what it has received, whatever was left over. -/
theorem drain_clean {first second : FrameBuffer} (same : first.clean = second.clean) :
    first.drain.1 = second.drain.1 ∧ first.drain.2.clean = second.drain.2.clean := by
  -- The received bytes are the same in both.
  obtain ⟨capacity, filled⟩ := clean_eq_iff.mp same
  exact ⟨filled, clean_eq_iff.mpr ⟨capacity, rfl⟩⟩

end FrameBuffer

namespace Scanner

/-- A full run lies within the bytes that are searched. -/
theorem seek_bounds {runLength : Nat} {run : Run} {index : Nat} {bytes : Bytes} {kind : Markup}
    {next : Nat} (found : seek runLength run index bytes = .found kind next) :
    next ≤ index + bytes.length := by
  -- The search goes through the bytes one by one.
  induction bytes generalizing run index with
  | nil => cases found
  | cons b rest ih =>
    unfold seek at found
    rw [List.length_cons]
    split at found
    · have bound := ih found
      omega
    · split at found
      · cases found
        omega
      · have bound := ih found
        omega

/-- A frame that is found lies within the buffer, wherever the search began. -/
theorem scan_bounds {scanner after : Scanner} {buffer : Bytes} {found : Terminator}
    (scanned : scanner.scan buffer = (some found, after)) : found.frameLength ≤ buffer.length := by
  -- Both directions end within the buffer.
  unfold scan at scanned
  split at scanned
  · simp only [scanForward] at scanned
    split at scanned
    · cases scanned
    · -- A search that begins behind the last byte finds nothing.
      rename_i kind next sought
      have bound := seek_bounds sought
      cases scanned
      by_cases inside : max scanner.cursor scanner.offset ≤ buffer.length
      · rw [List.length_drop] at bound
        show next - scanner.runLength ≤ buffer.length
        omega
      · rw [List.drop_of_length_le (by omega)] at sought
        cases sought
  · simp only [scanBackward] at scanned
    split at scanned
    · cases scanned
    split at scanned
    · cases scanned
    split at scanned
    · cases scanned
    · cases scanned
      show buffer.length - scanner.offset - _ ≤ buffer.length
      omega

end Scanner

namespace Lane

/-- A lane whose buffer has no leftovers. -/
def clean (lane : Lane) : Lane := { lane with buffer := lane.buffer.clean }

/-- Lanes that differ in leftovers only are searched alike and have the same frame to give. -/
theorem clean_eq_iff {first second : Lane} :
    first.clean = second.clean ↔ first.buffer.clean = second.buffer.clean ∧
      first.scanner = second.scanner ∧ first.frame = second.frame := by
  simp [clean]

/-- A search does not see leftovers. -/
theorem scan_clean {first second : Lane} (same : first.clean = second.clean) :
    first.scan.1 = second.scan.1 ∧ first.scan.2.clean = second.scan.2.clean := by
  -- The scanner looks at the received bytes, which are the same in both.
  obtain ⟨buffer, scanner, frame⟩ := clean_eq_iff.mp same
  obtain ⟨_, filled⟩ := FrameBuffer.clean_eq_iff.mp buffer
  simp only [scan, scanner, filled, true_and]
  exact clean_eq_iff.mpr ⟨buffer, rfl, frame⟩

/-- A frame that is found lies within the received bytes. -/
theorem scan_bounds {lane after : Lane} {found : Terminator}
    (scanned : lane.scan = (some found, after)) :
    found.frameLength ≤ after.buffer.filled.length := by
  -- The scanner looks at the received bytes.
  simp only [scan, Prod.mk.injEq] at scanned
  obtain ⟨located, rfl⟩ := scanned
  exact Scanner.scan_bounds (Prod.ext located rfl)

end Lane

namespace Intake

/-- An intake whose buffers have no leftovers. -/
def clean (intake : Intake) : Intake :=
  { intake with header := intake.header.clean, message := intake.message.clean }

section

variable {first second : Intake} {phase : Phase}

/-- Intakes that differ in leftovers only have such lanes, and one queue. -/
theorem clean_eq_iff : first.clean = second.clean ↔ first.runLength = second.runLength ∧
    (∀ phase, (first.lane phase).clean = (second.lane phase).clean) ∧
      first.pending = second.pending := by
  -- There are two lanes, one for each phase.
  refine ⟨fun same => ?_, fun ⟨runLength, lanes, pending⟩ => ?_⟩
  · simp only [clean, mk.injEq] at same
    obtain ⟨runLength, header, message, pending⟩ := same
    refine ⟨runLength, ?_, pending⟩
    intro phase
    cases phase with
    | header => exact header
    | message => exact message
  · simp only [clean, mk.injEq]
    exact ⟨runLength, lanes .header, lanes .message, pending⟩

/-- Replacing the queue keeps intakes alike. -/
theorem queue_clean (same : first.clean = second.clean) (queue : Bytes) :
    ({ first with pending := queue } : Intake).clean =
      ({ second with pending := queue } : Intake).clean := by
  -- The lanes stay as they are.
  obtain ⟨runLength, lanes, _⟩ := clean_eq_iff.mp same
  apply clean_eq_iff.mpr
  refine ⟨runLength, fun phase => ?_, rfl⟩
  cases phase with
  | header => exact lanes .header
  | message => exact lanes .message

/-- So does replacing a lane. -/
theorem setLane_clean (same : first.clean = second.clean) (phase : Phase) {lane other : Lane}
    (alike : lane.clean = other.clean) :
    (first.setLane phase lane).clean = (second.setLane phase other).clean := by
  -- The other lane stays as it is.
  obtain ⟨runLength, lanes, pending⟩ := clean_eq_iff.mp same
  apply clean_eq_iff.mpr
  rw [runLength_setLane, runLength_setLane, pending_setLane, pending_setLane]
  refine ⟨runLength, fun which => ?_, pending⟩
  by_cases here : which = phase
  · rw [here, lane_setLane_same, lane_setLane_same]
    exact alike
  · rw [lane_setLane_other here, lane_setLane_other here]
    exact lanes which

/-- Leftovers take no room in a lane. -/
theorem spare_clean (same : first.clean = second.clean) (phase : Phase) :
    first.spare phase = second.spare phase := by
  -- The room is that of the buffer of the lane.
  obtain ⟨_, lanes, _⟩ := clean_eq_iff.mp same
  exact FrameBuffer.spare_clean (Lane.clean_eq_iff.mp (lanes phase)).1

/-- A frame that has been found is delivered whatever was left over. -/
theorem deliver_clean (same : first.clean = second.clean) {lane other : Lane}
    (lanes : lane.clean = other.clean) (queue : Bytes) {found : Terminator}
    (within : found.frameLength ≤ lane.buffer.filled.length) :
    (first.deliver phase lane queue found).1 = (second.deliver phase other queue found).1 ∧
      (first.deliver phase lane queue found).2.clean =
        (second.deliver phase other queue found).2.clean := by
  -- The frame that is cut out is the same, and so is what is behind it.
  obtain ⟨runLength, _, _⟩ := clean_eq_iff.mp same
  obtain ⟨buffer, scanner, frame⟩ := Lane.clean_eq_iff.mp lanes
  obtain ⟨content, alike⟩ := FrameBuffer.splitFrame_clean buffer within found.next
  obtain ⟨rest, alike⟩ := FrameBuffer.drain_clean alike
  simp only [deliver]
  -- The frames and the bytes behind them are the same, so only leftovers are not.
  generalize lane.buffer.splitFrame found.frameLength found.next = cut at content rest alike ⊢
  generalize other.buffer.splitFrame found.frameLength found.next = made at content rest alike ⊢
  obtain ⟨bytes, left⟩ := cut
  obtain ⟨_, kept⟩ := made
  simp only at content rest alike ⊢
  rw [content, rest]
  cases decoded : Escape.decode first.runLength _ with
  | error offset =>
    rw [runLength] at decoded
    simp only [decoded, true_and]
    have emptied : ({ lane with buffer := left.drain.2 } : Lane).clean =
        ({ other with buffer := kept.drain.2 } : Lane).clean :=
      Lane.clean_eq_iff.mpr ⟨alike, scanner, frame⟩
    exact setLane_clean (queue_clean same _) phase emptied
  | ok content =>
    rw [runLength] at decoded
    simp only [decoded, true_and]
    have emptied :
        ({ lane with buffer := left.drain.2, frame := some content } : Lane).clean =
          ({ other with buffer := kept.drain.2, frame := some content } : Lane).clean :=
      Lane.clean_eq_iff.mpr ⟨alike, scanner, rfl⟩
    exact setLane_clean (queue_clean same _) phase emptied

/-- What is pulled in from the queue does not depend on leftovers, nor does what stays in it. -/
theorem pull_clean {lane other : Lane} (lanes : lane.clean = other.clean) (queue : Bytes) :
    (lane.pull queue).1.clean = (other.pull queue).1.clean ∧
      (lane.pull queue).2 = (other.pull queue).2 := by
  -- As many bytes are pulled in as there is room for.
  obtain ⟨buffer, scanner, frame⟩ := Lane.clean_eq_iff.mp lanes
  refine ⟨Lane.clean_eq_iff.mpr ⟨FrameBuffer.receive_clean buffer queue, scanner, frame⟩, ?_⟩
  show queue.drop lane.buffer.spare = queue.drop other.buffer.spare
  rw [FrameBuffer.spare_clean buffer]

/-- A read whose received bytes count alike comes to the same whatever was left over. -/
theorem read_clean (same : first.clean = second.clean) {received : Nat}
    (counted : ((first.lane phase).buffer.commit received).clean =
      ((second.lane phase).buffer.commit received).clean) :
    (first.read phase received).1 = (second.read phase received).1 ∧
      (first.read phase received).2.clean = (second.read phase received).2.clean := by
  -- The lanes have scanners that have come equally far.
  obtain ⟨_, lanes, pending⟩ := clean_eq_iff.mp same
  obtain ⟨_, scanner, frame⟩ := Lane.clean_eq_iff.mp (lanes phase)
  -- The lanes once the received bytes are counted.
  have alike : Lane.clean
        { first.lane phase with buffer := (first.lane phase).buffer.commit received } =
      Lane.clean { second.lane phase with buffer := (second.lane phase).buffer.commit received } :=
    Lane.clean_eq_iff.mpr ⟨counted, scanner, frame⟩
  simp only [read, ← pending]
  generalize ({ first.lane phase with
    buffer := (first.lane phase).buffer.commit received } : Lane) = lane at alike ⊢
  generalize ({ second.lane phase with
    buffer := (second.lane phase).buffer.commit received } : Lane) = other at alike ⊢
  obtain ⟨found, alike⟩ := Lane.scan_clean alike
  rcases scanned : lane.scan with ⟨located, lane⟩
  rcases looked : other.scan with ⟨seen, other⟩
  rw [scanned, looked] at found alike
  cases found
  cases located with
  | some terminator => exact deliver_clean same alike _ (Lane.scan_bounds scanned)
  | none =>
    -- What is pulled in from the queue is searched next.
    obtain ⟨filled, left⟩ := pull_clean alike first.pending
    simp only
    generalize lane.pull first.pending = pulled at filled left ⊢
    generalize other.pull first.pending = drawn at filled left ⊢
    obtain ⟨lane, queue⟩ := pulled
    obtain ⟨other, rest⟩ := drawn
    simp only at filled left ⊢
    subst left
    by_cases still : queue.length = first.pending.length
    · simp only [if_pos still, true_and]
      exact setLane_clean same phase filled
    · simp only [if_neg still]
      obtain ⟨found, alike⟩ := Lane.scan_clean filled
      rcases scanned : lane.scan with ⟨located, lane⟩
      rcases looked : other.scan with ⟨seen, other⟩
      rw [scanned, looked] at found alike
      cases found
      cases located with
      | some terminator => exact deliver_clean same alike _ (Lane.scan_bounds scanned)
      | none => exact ⟨rfl, setLane_clean (queue_clean same queue) phase alike⟩

/-- Bytes that fit are received and searched whatever was left over. -/
theorem receive_clean (same : first.clean = second.clean) {bytes : Bytes}
    (fits : bytes.length ≤ first.spare phase) :
    (first.receive phase bytes).1 = (second.receive phase bytes).1 ∧
      (first.receive phase bytes).2.clean = (second.receive phase bytes).2.clean := by
  -- The lanes have scanners that have come equally far.
  obtain ⟨_, lanes, pending⟩ := clean_eq_iff.mp same
  obtain ⟨buffer, scanner, frame⟩ := Lane.clean_eq_iff.mp (lanes phase)
  -- Staged bytes are leftovers until they are counted.
  have staged : (first.stage phase bytes).clean = (second.stage phase bytes).clean := by
    apply setLane_clean same
    exact Lane.clean_eq_iff.mpr ⟨buffer, scanner, frame⟩
  apply read_clean staged
  simp only [stage, lane_setLane_same]
  exact FrameBuffer.commit_clean buffer fits

/-- Taking a frame does not depend on leftovers. -/
theorem takeFrame_clean (same : first.clean = second.clean) (phase : Phase) :
    (first.takeFrame phase).1 = (second.takeFrame phase).1 ∧
      (first.takeFrame phase).2.clean = (second.takeFrame phase).2.clean := by
  -- The lanes hold one frame.
  obtain ⟨_, lanes, _⟩ := clean_eq_iff.mp same
  obtain ⟨buffer, scanner, frame⟩ := Lane.clean_eq_iff.mp (lanes phase)
  refine ⟨frame, setLane_clean same phase ?_⟩
  exact Lane.clean_eq_iff.mpr ⟨buffer, scanner, rfl⟩

/-- Nor does preparing for the next round. -/
theorem rewind_clean (same : first.clean = second.clean) :
    first.rewind.clean = second.rewind.clean := by
  -- The two lanes give up the same bytes.
  obtain ⟨runLength, lanes, pending⟩ := clean_eq_iff.mp same
  -- A flushed lane gives up what it has received, and is searched from its start.
  have flushed : ∀ {lane other : Lane}, lane.clean = other.clean →
      lane.flush.1 = other.flush.1 ∧ lane.flush.2.clean = other.flush.2.clean := by
    intro lane other alike
    obtain ⟨buffer, scanner, _⟩ := Lane.clean_eq_iff.mp alike
    obtain ⟨bytes, empty⟩ := FrameBuffer.drain_clean buffer
    refine ⟨bytes, Lane.clean_eq_iff.mpr ⟨empty, ?_, rfl⟩⟩
    exact congrArg Scanner.reset scanner
  obtain ⟨headerRest, header⟩ := flushed (lanes .header)
  obtain ⟨messageRest, message⟩ := flushed (lanes .message)
  apply clean_eq_iff.mpr
  refine ⟨runLength, fun phase => ?_, ?_⟩
  · cases phase with
    | header => exact header
    | message => exact message
  · show first.header.flush.1 ++ first.message.flush.1 ++ first.pending =
      second.header.flush.1 ++ second.message.flush.1 ++ second.pending
    exact congrArg₂ _ (congrArg₂ _ headerRest messageRest) pending

end

end Intake

/-- A scanner keeps what it looks for, however far it has come. -/
theorem Scanner.reset_scan (scanner : Scanner) (buffer : Bytes) :
    (scanner.scan buffer).2.reset = scanner.reset := by
  -- Only the offset moves, in either direction.
  unfold scan
  split
  · simp only [scanForward]
    split <;> rfl
  · simp only [scanBackward]
    split
    · rfl
    split
    · rfl
    split <;> rfl

/-- A lane in which nothing has been received. -/
def Lane.emptied (lane : Lane) : Lane :=
  { buffer := .ofCapacity lane.buffer.capacity, scanner := lane.scanner.reset, frame := none }

namespace Intake

/-- An intake that has received nothing, of the same make. -/
def emptied (intake : Intake) : Intake :=
  { intake with header := intake.header.emptied, message := intake.message.emptied, pending := [] }

/-- The bytes that have been received and not been read, in order. -/
def unread (intake : Intake) : Bytes :=
  intake.header.buffer.filled ++ intake.message.buffer.filled ++ intake.pending

/-- All that an intake takes into the next round are its unread bytes. -/
theorem rewind_eq (intake : Intake) :
    intake.rewind.clean = { intake.emptied with pending := intake.unread } := rfl

/-- A new intake is empty already. -/
theorem emptied_ofSettings (settings : Settings) :
    (ofSettings settings).emptied = ofSettings settings := rfl

section

variable (intake : Intake) (phase : Phase)

/-- A lane of the same make can take the place of another. -/
theorem emptied_setLane {lane : Lane} (alike : lane.emptied = (intake.lane phase).emptied)
    (queue : Bytes) :
    ({ intake with pending := queue }.setLane phase lane).emptied = intake.emptied := by
  cases phase <;> simp only [emptied, setLane, alike] <;> rfl

/-- Delivering a frame leaves the make of an intake alone. -/
theorem emptied_deliver {lane : Lane} (alike : lane.emptied = (intake.lane phase).emptied)
    (queue : Bytes) (found : Terminator) :
    (intake.deliver phase lane queue found).2.emptied = intake.emptied := by
  -- The frame may be one that cannot be read.
  simp only [deliver]
  split
  · apply emptied_setLane
    exact alike
  · apply emptied_setLane
    exact alike

/-- So does a read, whatever it finds. -/
theorem emptied_read (received : Nat) :
    (intake.read phase received).2.emptied = intake.emptied := by
  -- Only the contents of a lane change, and how far its scanner has come.
  have counted : Lane.emptied
      { intake.lane phase with buffer := (intake.lane phase).buffer.commit received } =
        (intake.lane phase).emptied := rfl
  have searched : ∀ lane : Lane, lane.scan.2.emptied = lane.emptied := by
    intro lane
    simp only [Lane.emptied, Lane.scan, Scanner.reset_scan]
  simp only [read]
  generalize ({ intake.lane phase with
    buffer := (intake.lane phase).buffer.commit received } : Lane) = lane at counted ⊢
  have first := (searched lane).trans counted
  generalize lane.scan = scanned at first ⊢
  obtain ⟨_ | found, lane⟩ := scanned
  · -- What is pulled in from the queue is searched next.
    have pulled : (lane.pull intake.pending).1.emptied = (intake.lane phase).emptied := first
    simp only
    generalize lane.pull intake.pending = moved at pulled ⊢
    obtain ⟨lane, queue⟩ := moved
    simp only at pulled ⊢
    split
    · exact emptied_setLane intake phase pulled intake.pending
    · have second := (searched lane).trans pulled
      generalize lane.scan = scanned at second ⊢
      obtain ⟨_ | found, lane⟩ := scanned
      · exact emptied_setLane intake phase second queue
      · exact emptied_deliver intake phase second queue found
  · exact emptied_deliver intake phase first intake.pending found

/-- So do bytes that are received. -/
theorem emptied_receive (bytes : Bytes) :
    (intake.receive phase bytes).2.emptied = intake.emptied := by
  -- Bytes are staged before they are read.
  unfold receive
  rw [emptied_read]
  cases phase <;> rfl

/-- So does taking a frame. -/
theorem emptied_takeFrame : (intake.takeFrame phase).2.emptied = intake.emptied := by
  cases phase <;> rfl

/-- So does the next round. -/
theorem emptied_rewind : intake.rewind.emptied = intake.emptied := rfl

end

end Intake

end SentinelRounds
