import SentinelRounds.Bytes

/-! A receive buffer that never grows past the size it was made with. -/

namespace SentinelRounds

/-- The memory of a receive buffer: the received bytes, then what older contents left behind. -/
structure FrameBuffer where
  capacity : Nat
  /-- Received bytes, in order. -/
  filled : Bytes
  /-- Leftovers just after the received bytes; all memory after these is zero. -/
  stale : Bytes
  deriving DecidableEq, Repr

namespace FrameBuffer

/-- An empty buffer of zeros. -/
def ofCapacity (capacity : Nat) : FrameBuffer :=
  { capacity, filled := [], stale := [] }

/-- Free space after the received bytes. -/
def spare (buffer : FrameBuffer) : Nat := buffer.capacity - buffer.filled.length

/-- Whether nothing has been received. -/
def isEmpty (buffer : FrameBuffer) : Bool := buffer.filled.isEmpty

/-- The first `count` bytes of memory from a known part followed by zeros. -/
def firstOf (count : Nat) (known : Bytes) : Bytes :=
  known.take count ++ List.replicate (count - known.length) 0

/-- Places bytes at the front of the free space without counting them as received. -/
def stage (buffer : FrameBuffer) (bytes : Bytes) : FrameBuffer :=
  -- Older leftovers survive behind the new bytes.
  { buffer with stale := bytes ++ buffer.stale.drop bytes.length }

/-- Counts `count` more bytes of memory as received, as far as there is room. -/
def commit (buffer : FrameBuffer) (count : Nat) : FrameBuffer :=
  -- Memory that was never staged holds leftovers or zeros.
  let count := min count buffer.spare
  { buffer with
    filled := buffer.filled ++ firstOf count buffer.stale
    stale := buffer.stale.drop count }

/-- Receives as much of `bytes` as fits. -/
def receive (buffer : FrameBuffer) (bytes : Bytes) : FrameBuffer :=
  -- Both steps agree on what fits, so nothing staged is left uncounted.
  let fitting := bytes.take buffer.spare
  (buffer.stage fitting).commit fitting.length

/-- Moves as much of a source as fits, returning the buffer and the source that is left. -/
def fillFrom (buffer : FrameBuffer) (source : Bytes) : FrameBuffer × Bytes :=
  (buffer.receive source, source.drop buffer.spare)

/-- Copies out the first `frameLength` bytes and drops all received bytes before `next`. -/
def splitFrame (buffer : FrameBuffer) (frameLength next : Nat) : Bytes × FrameBuffer :=
  -- The bytes from `next` on move to the front; memory behind them keeps what it held.
  let memory := buffer.filled ++ buffer.stale
  let kept := buffer.filled.drop next
  (firstOf frameLength memory, { buffer with filled := kept, stale := memory.drop kept.length })

/-- Removes and returns everything received. -/
def drain (buffer : FrameBuffer) : Bytes × FrameBuffer :=
  -- The memory keeps what was received as leftovers.
  (buffer.filled, { buffer with filled := [], stale := buffer.filled ++ buffer.stale })

/-- Forgets everything received. -/
def clear (buffer : FrameBuffer) : FrameBuffer := buffer.drain.2

end FrameBuffer

end SentinelRounds
