import SentinelRounds.Round.Context
import SentinelRounds.Proofs.Round.Intake

/-! Whatever is received in whichever phase, reads stay within the buffers and overlook no frame. -/

namespace SentinelRounds

namespace FrameBuffer

/-- All memory that is in use lies within the size the buffer was made with. -/
def Contained (buffer : FrameBuffer) : Prop :=
  -- Behind the leftovers there are only zeros, which were never written.
  buffer.filled.length + buffer.stale.length ≤ buffer.capacity

/-- As many bytes of memory are read as are asked for. -/
@[simp] theorem length_firstOf (count : Nat) (known : Bytes) :
    (firstOf count known).length = count := by
  -- Zeros stand in for what is not known.
  simp only [firstOf, List.length_append, List.length_take, List.length_replicate]
  omega

/-- A buffer takes all it has room for at once, so no byte moves a second time. -/
theorem fillFrom_again (buffer : FrameBuffer) (source : Bytes) :
    let moved := buffer.fillFrom source
    moved.1.fillFrom moved.2 = moved := by
  -- The source is used up, or the buffer is full.
  intro moved
  have filled : moved.1.filled.length = buffer.filled.length + min buffer.spare source.length := by
    simp only [moved, fillFrom, filled_receive, List.length_append, List.length_take]
  have left : moved.2.length = source.length - buffer.spare := List.length_drop
  have capacity : moved.1.capacity = buffer.capacity := rfl
  refine (fillFrom_still ?_).1
  simp only [fillFrom, List.length_drop, left]
  simp only [spare, capacity, filled] at left ⊢
  omega

namespace Contained

variable {buffer : FrameBuffer}

/-- The received bytes fit the buffer. -/
theorem fits (contained : buffer.Contained) : buffer.filled.length ≤ buffer.capacity :=
  Nat.le_trans (Nat.le_add_right _ _) contained

/-- Bytes are placed within the buffer if they fit its free space. -/
theorem stage (contained : buffer.Contained) {bytes : Bytes}
    (fits : bytes.length ≤ buffer.spare) : (buffer.stage bytes).Contained := by
  -- They overwrite leftovers, or lie behind all of them.
  have room := contained.fits
  simp only [Contained, spare] at contained fits
  simp only [Contained, FrameBuffer.stage, List.length_append, List.length_drop]
  omega

/-- However many bytes are counted as received, they are bytes of the buffer. -/
theorem commit (contained : buffer.Contained) (count : Nat) : (buffer.commit count).Contained := by
  -- No more is counted than there is free space.
  have room := contained.fits
  simp only [Contained] at contained
  simp only [Contained, FrameBuffer.commit, spare, List.length_append, length_firstOf,
    List.length_drop]
  omega

/-- A source is received within the buffer, however long it is. -/
theorem receive (contained : buffer.Contained) (source : Bytes) :
    (buffer.receive source).Contained :=
  (contained.stage (List.length_take_le _ _)).commit _

/-- Cutting out a frame moves bytes within the memory that is in use. -/
theorem splitFrame (contained : buffer.Contained) (frameLength next : Nat) :
    (buffer.splitFrame frameLength next).2.Contained := by
  -- What is kept moves to the front, and what it moves over counts as left over.
  simp only [Contained] at contained
  simp only [Contained, FrameBuffer.splitFrame, List.length_append, List.length_drop]
  omega

/-- What has been received is left over when a buffer is drained. -/
theorem drain (contained : buffer.Contained) : buffer.drain.2.Contained := by
  -- The same memory is in use.
  simp only [Contained] at contained
  simp only [Contained, FrameBuffer.drain, List.length_append, List.length_nil]
  omega

end Contained

end FrameBuffer

namespace Scanner

/-- A new scanner that is handed quiet bytes has passed them. -/
theorem scan_quiet {runLength : Nat} {bytes : Bytes}
    (quiet : Run.start.Quiet (max runLength 1) bytes) :
    (ofRunLength runLength).scan bytes = (none, passed runLength bytes) := by
  -- A new scanner has passed nothing.
  have scanned := @scan_passed runLength [] trivial bytes
  rw [List.nil_append, (firstRun?_eq_none_iff (by omega)).mpr quiet] at scanned
  exact scanned

end Scanner

namespace Lane

/-- How a hunt for a terminator ends. -/
structure Hunt where
  located : Option Terminator
  lane : Lane
  /-- What is left of the queue. -/
  queue : Bytes

/-- Searches a lane and pulls in the queue by turns, until a terminator is found or nothing moves. -/
def hunt (lane : Lane) (queue : Bytes) : Hunt :=
  -- The lane is searched first: a terminator in it comes before all that the queue holds.
  match lane.scan with
  | (some found, lane) => ⟨some found, lane, queue⟩
  | (none, lane) =>
    let (lane, rest) := lane.pull queue
    -- Every further search has bytes before it that no search has seen.
    if rest.length < queue.length then lane.hunt rest else ⟨none, lane, rest⟩
termination_by queue.length

/-- A search leaves the received bytes alone. -/
@[simp] theorem buffer_scan (lane : Lane) : lane.scan.2.buffer = lane.buffer := rfl

/-- After a pull another one moves nothing, even if the lane is searched in between. -/
theorem pull_again {lane after : Lane} {queue : Bytes}
    (same : after.buffer = (lane.pull queue).1.buffer) :
    after.pull (lane.pull queue).2 = (after, (lane.pull queue).2) := by
  -- A pull depends on the buffer of the lane only.
  have moved : after.buffer.fillFrom (lane.pull queue).2 = lane.buffer.fillFrom queue := by
    rw [same]
    exact FrameBuffer.fillFrom_again lane.buffer queue
  simp only [pull] at same ⊢
  simp only [pull] at moved
  rw [moved, ← same]

/-- A lane that has searched in vain all it has received, within its memory. -/
structure Sound (capacity runLength : Nat) (lane : Lane) : Prop where
  contained : lane.buffer.Contained
  holds : lane.Holds capacity runLength lane.buffer.filled

/-- A lane that has searched in vain a front of what it has received, within its memory. -/
structure Searching (capacity runLength : Nat) (lane : Lane) : Prop where
  contained : lane.buffer.Contained
  sized : lane.buffer.capacity = capacity
  passed : ∃ held unseen, lane.buffer.filled = held ++ unseen ∧
    lane.scanner = Scanner.passed runLength held ∧ Run.start.Quiet (max runLength 1) held

/-- A lane with a fresh scanner, in which a terminator lies within the received bytes. -/
structure Found (capacity runLength : Nat) (found : Terminator) (lane : Lane) : Prop where
  contained : lane.buffer.Contained
  sized : lane.buffer.capacity = capacity
  scanner : lane.scanner = Scanner.passed runLength []
  frame : found.frameLength ≤ found.next
  next : found.next ≤ lane.buffer.filled.length

section

variable {capacity runLength : Nat} {lane : Lane}

/-- A lane stays sound as long as it has received and searched the same bytes. -/
theorem Sound.alike (sound : lane.Sound capacity runLength) {after : Lane}
    (contained : after.buffer.Contained) (sized : after.buffer.capacity = lane.buffer.capacity)
    (filled : after.buffer.filled = lane.buffer.filled) (scanner : after.scanner = lane.scanner) :
    after.Sound capacity runLength := by
  -- Neither what is left over nor the last frame matters.
  obtain ⟨_, holds⟩ := sound
  refine ⟨contained, sized.trans holds.sized, rfl, ?_, ?_, ?_⟩
  · rw [filled]
    exact holds.fits
  · rw [scanner, filled]
    exact holds.scanner
  · rw [filled]
    exact holds.quiet

/-- A sound lane may receive more bytes before it is searched again. -/
theorem Sound.searching (sound : lane.Sound capacity runLength) {buffer : FrameBuffer}
    (contained : buffer.Contained) (sized : buffer.capacity = lane.buffer.capacity)
    {unseen : Bytes} (grown : buffer.filled = lane.buffer.filled ++ unseen) :
    Searching capacity runLength { lane with buffer } :=
  ⟨contained, sized.trans sound.holds.sized, _, unseen, grown, sound.holds.scanner,
    sound.holds.quiet⟩

/-- A search finds a terminator within what has been received, or the lane is sound after it. -/
theorem Searching.scan (searching : lane.Searching capacity runLength) :
    match lane.scan with
    | (some found, after) => after.Found capacity runLength found
    | (none, after) => after.Sound capacity runLength := by
  -- The scanner goes on where it stopped, and finds what one search of the whole would find.
  obtain ⟨contained, sized, held, unseen, filled, scanner, quiet⟩ := searching
  have positive : 0 < max runLength 1 := by omega
  rw [Lane.scan_eq scanner filled quiet, ← filled]
  cases first : Scanner.firstRun? (max runLength 1) lane.buffer.filled with
  | some found =>
    obtain ⟨kind, next⟩ := found
    exact ⟨contained, sized, rfl, Nat.sub_le _ _, (Scanner.firstRun?_bounds positive first).2⟩
  | none =>
    have fits := contained.fits
    rw [sized] at fits
    exact ⟨contained, sized, rfl, fits, rfl, (Scanner.firstRun?_eq_none_iff positive).mp first⟩

/-- A hunt is over: there is a frame to cut out, or there is nothing to find and nothing to add. -/
def Hunt.Settled (capacity runLength : Nat) (hunt : Hunt) : Prop :=
  match hunt.located with
  | some found => hunt.lane.Found capacity runLength found
  | none => hunt.lane.Sound capacity runLength ∧
    (hunt.queue = [] ∨ hunt.lane.buffer.filled.length = capacity)

/-- A hunt is given up only when the queue is empty or the lane is full. -/
theorem Searching.hunt (searching : lane.Searching capacity runLength) (queue : Bytes) :
    (lane.hunt queue).Settled capacity runLength := by
  -- The induction follows the turns; every pull leaves a lane that is being searched.
  induction lane, queue using Lane.hunt.induct with
  | case1 lane queue found after scanned =>
    have outcome := searching.scan
    rw [scanned] at outcome
    rw [Lane.hunt, scanned]
    exact outcome
  | case2 lane queue after scanned pulled rest drawn moves ih =>
    have sound := searching.scan
    rw [scanned] at sound
    rw [Lane.hunt, scanned]
    simp only [drawn, if_pos moves]
    apply ih
    cases drawn
    exact sound.searching (sound.contained.receive _) rfl (FrameBuffer.filled_receive _ _)
  | case3 lane queue after scanned pulled rest drawn rests =>
    have sound := searching.scan
    rw [scanned] at sound
    rw [Lane.hunt, scanned]
    simp only [drawn, if_neg rests]
    -- Nothing has moved, so lane and queue are those that the search has left.
    have still : queue.length ≤ (after.pull queue).2.length := by
      rw [drawn]
      exact Nat.le_of_not_lt rests
    obtain ⟨same, stuck⟩ := pull_still still
    rw [same] at drawn
    cases drawn
    refine ⟨sound, stuck.imp_right fun full => ?_⟩
    -- A lane without free space is full.
    have fits := sound.contained.fits
    have sized := sound.holds.sized
    simp only [FrameBuffer.spare] at full
    show after.buffer.filled.length = capacity
    omega

end

end Lane

namespace Intake

/-- The lane of a phase once some bytes of its memory count as received. -/
def counted (intake : Intake) (phase : Phase) (received : Nat) : Lane :=
  -- The scanner has yet to see them.
  { intake.lane phase with buffer := (intake.lane phase).buffer.commit received }

/-- How the hunt for a terminator ends that a read of a phase sets off. -/
def hunt (intake : Intake) (phase : Phase) (received : Nat) : Lane.Hunt :=
  (intake.counted phase received).hunt intake.pending

/-- What a read makes of a hunt: only a located frame is cut out of its lane. -/
def conclude (intake : Intake) (phase : Phase) (hunt : Lane.Hunt) :
    Except Nat (Option Markup) × Intake :=
  -- This is the only place where a read cuts anything.
  match hunt.located with
  | some found => intake.deliver phase hunt.lane hunt.queue found
  | none => (.ok none, { intake with pending := hunt.queue }.setLane phase hunt.lane)

/-- A read, which searches at most twice, comes to what a hunt over any number of turns comes to. -/
theorem read_eq_conclude (intake : Intake) (phase : Phase) (received : Nat) :
    intake.read phase received = intake.conclude phase (intake.hunt phase received) := by
  -- The first search is the same for both.
  simp only [read, hunt, counted]
  generalize ({ intake.lane phase with
    buffer := (intake.lane phase).buffer.commit received } : Lane) = lane
  rw [Lane.hunt]
  rcases lane.scan with ⟨_ | found, lane⟩
  · simp only
    have shrinks : (lane.pull intake.pending).2.length ≤ intake.pending.length :=
      (List.drop_suffix _ _).length_le
    by_cases still : (lane.pull intake.pending).2.length = intake.pending.length
    · -- Nothing has moved: the queue is the one that was there.
      rw [(Lane.pull_still (Nat.le_of_eq still.symm)).1]
      simp only [if_true, Nat.lt_irrefl, if_false]
      rfl
    · -- After the second search nothing can be pulled in any more.
      rw [if_neg still, if_pos (by omega), Lane.hunt]
      rcases searched : (lane.pull intake.pending).1.scan with ⟨_ | found, after⟩
      · have buffer := Lane.buffer_scan (lane.pull intake.pending).1
        rw [searched] at buffer
        simp only [Lane.pull_again buffer, Nat.lt_irrefl, if_false]
        rfl
      · rfl
  · rfl

/-- An intake whose lanes are sound. -/
def Sound (settings : Settings) (intake : Intake) : Prop :=
  -- Both may hold bytes at once, and any bytes may wait in the queue.
  ∀ phase, (intake.lane phase).Sound (settings.capacity phase) settings.runLength

/-- Nothing has been received in a new intake. -/
theorem sound_ofSettings (settings : Settings) : (ofSettings settings).Sound settings := by
  -- Both lanes are empty, with the capacity of their phase.
  intro phase
  cases phase <;> exact ⟨Nat.zero_le _, Lane.holds_ofCapacity _ _⟩

/-- A delivered frame was located. -/
theorem deliver_ne_none (intake : Intake) (phase : Phase) (lane : Lane) (queue : Bytes)
    (found : Terminator) : (intake.deliver phase lane queue found).1 ≠ .ok none := by
  -- It is handed on with the kind of its terminator, or it cannot be read.
  simp only [deliver]
  split <;> simp

namespace Sound

variable {settings : Settings} {intake : Intake}

/-- A sound lane may take the place of a lane. -/
theorem setLane (sound : intake.Sound settings) {phase : Phase} {lane : Lane}
    (fresh : lane.Sound (settings.capacity phase) settings.runLength) (queue : Bytes) :
    ({ intake with pending := queue }.setLane phase lane).Sound settings := by
  -- The other lane stays as it was.
  intro other
  by_cases same : other = phase
  · rw [same, lane_setLane_same]
    exact fresh
  · rw [lane_setLane_other same]
    -- The queue is in no lane.
    have kept := sound other
    cases other <;> exact kept

/-- What is staged does not count before it is read. -/
theorem stage (sound : intake.Sound settings) {phase : Phase} {bytes : Bytes}
    (fits : bytes.length ≤ intake.spare phase) : (intake.stage phase bytes).Sound settings := by
  -- Staged bytes stand behind those that count.
  have lane := sound phase
  have staged : Lane.Sound (settings.capacity phase) settings.runLength
      { intake.lane phase with buffer := (intake.lane phase).buffer.stage bytes } :=
    lane.alike (lane.contained.stage fits) rfl rfl rfl
  exact sound.setLane staged intake.pending

/-- The hunt of a read settles, however many bytes it counts as received. -/
theorem hunt (sound : intake.Sound settings) (phase : Phase) (received : Nat) :
    (intake.hunt phase received).Settled (settings.capacity phase) settings.runLength := by
  -- They stand behind what the scanner has seen.
  have lane := sound phase
  exact Lane.Searching.hunt (lane.searching (lane.contained.commit received) rfl rfl) _

/-- A lane is empty once a frame has been cut out of it, even one that cannot be read. -/
theorem deliver (sound : intake.Sound settings) {phase : Phase} {lane : Lane} {found : Terminator}
    (within : lane.Found (settings.capacity phase) settings.runLength found) (queue : Bytes) :
    (intake.deliver phase lane queue found).2.Sound settings := by
  -- What is behind the frame goes to the queue.
  have emptied : ∀ frame, Lane.Sound (settings.capacity phase) settings.runLength
      { lane with
        buffer := (lane.buffer.splitFrame found.frameLength found.next).2.drain.2
        frame } :=
    fun _ => ⟨(within.contained.splitFrame _ _).drain, within.sized, rfl, Nat.zero_le _,
      within.scanner, trivial⟩
  simp only [Intake.deliver]
  split
  · exact sound.setLane (emptied lane.frame) _
  · exact sound.setLane (emptied _) _

/-- A read leaves the lanes sound, whatever it finds. -/
theorem read (sound : intake.Sound settings) (phase : Phase) (received : Nat) :
    (intake.read phase received).2.Sound settings := by
  -- A read is judged by what its hunt has settled.
  have settled := sound.hunt phase received
  rw [read_eq_conclude]
  simp only [conclude]
  simp only [Lane.Hunt.Settled] at settled
  cases located : (intake.hunt phase received).located with
  | some found =>
    rw [located] at settled
    exact sound.deliver settled _
  | none =>
    rw [located] at settled
    exact sound.setLane settled.1 _

/-- Taking a frame leaves what the lanes have received. -/
theorem takeFrame (sound : intake.Sound settings) (phase : Phase) :
    (intake.takeFrame phase).2.Sound settings := by
  -- The buffer of the lane stays as it is.
  have lane := sound phase
  have taken : Lane.Sound (settings.capacity phase) settings.runLength
      { intake.lane phase with frame := none } := lane.alike lane.contained rfl rfl rfl
  exact sound.setLane taken intake.pending

/-- The lanes are empty in the next round. -/
theorem rewind (sound : intake.Sound settings) : intake.rewind.Sound settings := by
  -- Both lanes are flushed.
  intro phase
  have flushed := (sound phase).holds.flush.2
  have contained := (sound phase).contained.drain
  cases phase <;> exact ⟨contained, flushed⟩

end Sound

end Intake

namespace Context

/--
A context that has come about from a new one: bytes are placed in free space and a read counts some
of them, frames are taken, rounds are prepared, and whatever else is done leaves the intake alone.

A read may count fewer bytes than were placed or more, and it may do so while others wait in the
queue.
-/
inductive Arises (identity : Identity) (settings : Settings) : Context → Prop
  | initial : Arises identity settings (.initial identity settings)
  | read {context : Context} (before : Arises identity settings context) {phase : Phase}
      {bytes : Bytes} (fits : bytes.length ≤ context.intake.spare phase) (received : Nat) :
      Arises identity settings ((context.stage phase bytes).read phase received).2
  | take {context : Context} (before : Arises identity settings context) (phase : Phase) :
      Arises identity settings (context.takeFrame phase).2
  | reset {context : Context} (before : Arises identity settings context) :
      Arises identity settings context.reset
  | beside {context after : Context} (before : Arises identity settings context)
      (same : after.intake = context.intake) : Arises identity settings after

/-- A read of a context is one of its intake. -/
theorem intake_read (context : Context) (phase : Phase) (received : Nat) :
    (context.read phase received).2.intake = (context.intake.read phase received).2 ∧
      ((context.read phase received).1 = .ok none ↔
        (context.intake.read phase received).1 = .ok none) := by
  -- A fault is passed on, and so is a frame.
  simp only [Context.read]
  rcases context.intake.read phase received with ⟨_ | _, after⟩ <;> simp

/-- However a context has come about, its lanes are sound. -/
theorem Arises.sound {identity : Identity} {settings : Settings} {context : Context}
    (arises : context.Arises identity settings) : context.intake.Sound settings := by
  -- The induction is on what has been done.
  induction arises with
  | initial => exact Intake.sound_ofSettings settings
  | read before fits received ih =>
    rw [(intake_read _ _ _).1]
    exact (ih.stage fits).read _ received
  | take before phase ih => exact ih.takeFrame phase
  | reset before ih => exact ih.rewind
  | beside before same ih =>
    rw [same]
    exact ih

/--
However a context has come about, a read of it stays within the buffers and overlooks no frame.

The read cuts out the frame that its hunt locates, and nothing if it locates none. Such a frame ends
no later than its terminator, the terminator no later than the received bytes, and these no later
than the buffer. After the read no lane uses more memory than it was made with, and its scanner
stands where a new one comes to stand that searches all the lane has received and finds nothing. If
the read finds nothing, the queue is empty or the lane of the phase is full.
-/
theorem Arises.read_within {identity : Identity} {settings : Settings} {context : Context}
    (arises : context.Arises identity settings) {phase : Phase} {bytes : Bytes}
    (fits : bytes.length ≤ context.intake.spare phase) (received : Nat) :
    let staged := context.stage phase bytes
    let hunt := staged.intake.hunt phase received
    let result := staged.read phase received
    let after := result.2.intake
    (staged.intake.read phase received = staged.intake.conclude phase hunt ∧
      ∀ found ∈ hunt.located,
        found.frameLength ≤ found.next ∧ found.next ≤ hunt.lane.buffer.filled.length ∧
          hunt.lane.buffer.filled.length ≤ hunt.lane.buffer.capacity) ∧
    (∀ other,
      let lane := after.lane other
      lane.buffer.filled.length + lane.buffer.stale.length ≤ settings.capacity other ∧
        (Scanner.ofRunLength settings.runLength).scan lane.buffer.filled = (none, lane.scanner)) ∧
    (result.1 = .ok none →
      after.pending = [] ∨ (after.lane phase).buffer.filled.length = settings.capacity phase) := by
  -- The context has come about with sound lanes, and staging keeps them so.
  intro staged hunt result after
  have sound : staged.intake.Sound settings := arises.sound.stage fits
  have settled : hunt.Settled (settings.capacity phase) settings.runLength :=
    sound.hunt phase received
  obtain ⟨intake, nothing⟩ := staged.intake_read phase received
  have concluded := staged.intake.read_eq_conclude phase received
  refine ⟨⟨concluded, fun found located => ?_⟩, fun other => ?_, fun unfound => ?_⟩
  · -- The one frame that is cut out is the one that the hunt has located.
    simp only [Lane.Hunt.Settled, Option.mem_def.mp located] at settled
    exact ⟨settled.frame, settled.next, settled.contained.fits⟩
  · -- Both lanes are sound again, whatever the read has come to.
    have kept : after.Sound settings := by
      simp only [after, result]
      rw [intake]
      exact sound.read phase received
    obtain ⟨contained, holds⟩ := kept other
    simp only [FrameBuffer.Contained, holds.sized] at contained
    simp only [holds.scanner]
    exact ⟨contained, Scanner.scan_quiet holds.quiet⟩
  · -- A hunt that locates a terminator delivers a frame or a fault.
    have missed := nothing.mp unfound
    rw [concluded] at missed
    simp only [after, result]
    rw [intake, concluded]
    simp only [Intake.conclude, Lane.Hunt.Settled] at missed settled ⊢
    cases located : hunt.located with
    | some found =>
      rw [located] at missed
      exact absurd missed (Intake.deliver_ne_none _ _ _ _ _)
    | none =>
      -- The hunt was given up.
      rw [located] at settled
      rw [Intake.pending_setLane, Intake.lane_setLane_same]
      exact settled.2

/--
Both lanes hold bytes, the last of them a zero that was never placed. A read then cuts a frame out
of the one lane, and a read of the other takes in as much of what stood behind that frame as fits.
-/
theorem Arises.read_within_both :
    let settings : Settings := { headerCapacity := 6, messageCapacity := 3, runLength := 2 }
    let fresh : Context := .initial {} settings
    let header := ((fresh.stage .header [1, 4]).read .header 2).2
    let context := ((header.stage .message [7]).read .message 2).2
    let staged := context.stage .header [4, 9, 8, 5]
    let hunt := staged.intake.hunt .header 4
    let found := (staged.read .header 4).2
    context.Arises {} settings ∧ 4 ≤ context.intake.spare .header ∧
      hunt.located = some ⟨.final, 1, 3⟩ ∧ 1 ≤ 3 ∧ 3 ≤ hunt.lane.buffer.filled.length ∧
      hunt.lane.buffer.filled.length ≤ hunt.lane.buffer.capacity ∧
      found.Arises {} settings ∧ 0 ≤ found.intake.spare .message ∧
      found.intake.pending = [9, 8, 5] ∧
      let last := (found.stage .message []).read .message 0
      let lane := last.2.intake.lane .message
      lane.buffer.filled = [7, 0, 9] ∧ last.2.intake.pending = [8, 5] ∧
        (Scanner.ofRunLength settings.runLength).scan lane.buffer.filled = (none, lane.scanner) ∧
        last.1 = .ok none ∧
        (last.2.intake.pending = [] ∨ lane.buffer.filled.length = settings.capacity .message) := by
  -- The context has received in both phases.
  intro settings fresh header context staged hunt found
  have begun : header.Arises {} settings :=
    @Arises.read {} settings fresh .initial .header [1, 4] (by decide) 2
  have arises : context.Arises {} settings :=
    @Arises.read {} settings header begun .message [7] (by decide) 2
  have room : 4 ≤ context.intake.spare .header := by decide
  have located : hunt.located = some ⟨.final, 1, 3⟩ := by decide +kernel
  -- The frame is in the lane of headers, and the bytes behind it go through the queue.
  obtain ⟨⟨_, within⟩, _⟩ :=
    @Arises.read_within {} settings context arises .header [4, 9, 8, 5] room 4
  obtain ⟨frame, next, fits⟩ := within _ located
  have later : found.Arises {} settings :=
    @Arises.read {} settings context arises .header [4, 9, 8, 5] room 4
  have place : 0 ≤ found.intake.spare .message := Nat.zero_le _
  obtain ⟨_, lanes, missed⟩ := @Arises.read_within {} settings found later .message [] place 0
  have nothing : ((found.stage .message []).read .message 0).1 = .ok none := by decide +kernel
  refine ⟨arises, room, located, frame, next, fits, later, place, by decide +kernel, ?_⟩
  exact ⟨by decide +kernel, by decide +kernel, (lanes .message).2, nothing, missed nothing⟩

end Context

end SentinelRounds
