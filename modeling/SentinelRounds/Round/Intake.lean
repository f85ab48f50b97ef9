import SentinelRounds.Frame.Buffer
import SentinelRounds.Frame.Escape
import SentinelRounds.Frame.Scanner
import SentinelRounds.Round.Settings

/-! The receiving end of a byte stream: two fixed-size buffers, and a queue before them. -/

namespace SentinelRounds

/-- What one phase receives into. -/
structure Lane where
  buffer : FrameBuffer
  scanner : Scanner
  /-- Content of the last completed frame, until it is taken. -/
  frame : Option Bytes
  deriving DecidableEq, Repr

namespace Lane

/-- An empty lane. -/
def ofCapacity (capacity runLength : Nat) : Lane :=
  { buffer := .ofCapacity capacity, scanner := .ofRunLength runLength, frame := none }

/-- Searches the received bytes for a terminator. -/
def scan (lane : Lane) : Option Terminator × Lane :=
  -- The scanner keeps its place, so bytes are not searched twice.
  let (found, scanner) := lane.scanner.scan lane.buffer.filled
  (found, { lane with scanner })

/-- Pulls in as much of a queue as fits, returning the queue that is left. -/
def pull (lane : Lane) (queue : Bytes) : Lane × Bytes :=
  let (buffer, queue) := lane.buffer.fillFrom queue
  ({ lane with buffer }, queue)

/-- Empties the lane for the next round and returns the bytes it held. -/
def flush (lane : Lane) : Bytes × Lane :=
  -- A frame that was completed but never taken is lost with its round.
  let (bytes, buffer) := lane.buffer.drain
  (bytes, { buffer, scanner := lane.scanner.reset, frame := none })

end Lane

/-- The lanes of both phases, and the received bytes that have not entered a lane. -/
structure Intake where
  runLength : Nat
  header : Lane
  message : Lane
  pending : Bytes
  deriving DecidableEq, Repr

namespace Intake

/-- An intake that has received nothing. -/
def ofSettings (settings : Settings) : Intake :=
  -- Both lanes look for the same terminators and differ in size only.
  { runLength := settings.runLength
    header := .ofCapacity settings.headerCapacity settings.runLength
    message := .ofCapacity settings.messageCapacity settings.runLength
    pending := [] }

/-- The lane of a phase. -/
def lane (intake : Intake) : Phase → Lane
  | .header => intake.header
  | .message => intake.message

/-- The intake with the lane of a phase replaced. -/
def setLane (intake : Intake) : Phase → Lane → Intake
  | .header, header => { intake with header }
  | .message, message => { intake with message }

/-- Free receive space of a phase. -/
def spare (intake : Intake) (phase : Phase) : Nat := (intake.lane phase).buffer.spare

/-- Places bytes in the free receive space of a phase. -/
def stage (intake : Intake) (phase : Phase) (bytes : Bytes) : Intake :=
  -- Staged bytes do not count as received until they are read.
  let lane := intake.lane phase
  intake.setLane phase { lane with buffer := lane.buffer.stage bytes }

/-- Cuts the located frame out of a lane; all bytes after it go back in front of the queue. -/
def deliver (intake : Intake) (phase : Phase) (lane : Lane) (queue : Bytes)
    (found : Terminator) : Except Nat (Option Markup) × Intake :=
  -- A frame that cannot be read is gone from the stream all the same.
  let (frame, buffer) := lane.buffer.splitFrame found.frameLength found.next
  let (rest, buffer) := buffer.drain
  let intake := { intake with pending := rest ++ queue }
  match Escape.decode intake.runLength frame with
  | .error offset => (.error offset, intake.setLane phase { lane with buffer })
  | .ok content =>
    (.ok (some found.kind), intake.setLane phase { lane with buffer, frame := some content })

/--
Counts staged bytes as received and looks for a terminator; nothing found means that more bytes have
to come from outside.
-/
def read (intake : Intake) (phase : Phase) (received : Nat) :
    Except Nat (Option Markup) × Intake :=
  -- After one pull the lane is full or the queue is empty, so a second pull would move nothing.
  let lane := intake.lane phase
  let lane := { lane with buffer := lane.buffer.commit received }
  match lane.scan with
  | (some found, lane) => intake.deliver phase lane intake.pending found
  | (none, lane) =>
    let (lane, queue) := lane.pull intake.pending
    if queue.length = intake.pending.length then (.ok none, intake.setLane phase lane)
    else
      match lane.scan with
      | (some found, lane) => intake.deliver phase lane queue found
      | (none, lane) => (.ok none, { intake with pending := queue }.setLane phase lane)

/-- Receives bytes that fit the free space of a phase, and looks for a terminator. -/
def receive (intake : Intake) (phase : Phase) (bytes : Bytes) :
    Except Nat (Option Markup) × Intake :=
  (intake.stage phase bytes).read phase bytes.length

/-- Takes the frame that the last successful read of a phase completed. -/
def takeFrame (intake : Intake) (phase : Phase) : Option Bytes × Intake :=
  -- A frame is taken once: the lane has none until its next successful read.
  let lane := intake.lane phase
  (lane.frame, intake.setLane phase { lane with frame := none })

/-- Prepares for the next round: bytes of partial frames stay ahead of later bytes. -/
def rewind (intake : Intake) : Intake :=
  -- Whatever a header lane holds came before what the message lane holds.
  let (headerRest, header) := intake.header.flush
  let (messageRest, message) := intake.message.flush
  { intake with header, message, pending := headerRest ++ messageRest ++ intake.pending }

end Intake

end SentinelRounds
