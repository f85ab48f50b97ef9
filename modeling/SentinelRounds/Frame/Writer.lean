import SentinelRounds.Frame.Escape

/-! Terminated frames, the form in which headers and message chunks travel. -/

namespace SentinelRounds

/-- Why frame content cannot be written or read. -/
inductive FrameFault
  /-- The terminated frame would exceed the size the peer can hold. -/
  | tooLarge (size limit : Nat)
  /-- Runs of this value do not close frames. -/
  | notTerminator (kind : Markup)
  /-- An escape is due at this offset of the received content. -/
  | missingEscape (offset : Nat)
  deriving DecidableEq, Repr

/-- The wording of a frame fault. -/
def FrameFault.message : FrameFault → String
  | .tooLarge size limit => s!"Frame too large: {size} bytes (max: {limit})"
  | .notTerminator kind => "Not a terminator: " ++ kind.name
  | .missingEscape offset => s!"Missing escape byte at offset {offset}"

/-- How frames are closed and how long they may become. -/
structure Writer where
  /-- Identical closing bytes that make a terminator. -/
  runLength : Nat
  /-- Bound on escaped content plus terminator. -/
  maxFrame : Nat
  deriving DecidableEq, Repr

namespace Writer

/-- The terminated frame for some content, if it keeps the bound. -/
def frame (writer : Writer) (content : Bytes) (marker : Markup) : Except FrameFault Bytes :=
  -- The marker is judged before the size.
  if marker.closes then
    let escaped := Escape.encode writer.runLength content
    let size := escaped.length + writer.runLength
    if writer.maxFrame < size then .error (.tooLarge size writer.maxFrame)
    else .ok (escaped ++ List.replicate writer.runLength marker.byte)
  else .error (.notTerminator marker)

/-- Appends a terminated frame to an output that has the room, and counts the bytes added. -/
def write (writer : Writer) (output content : Bytes) (marker : Markup) :
    Except FrameFault (Bytes × Nat) :=
  -- On a fault the caller keeps the output it had.
  (writer.frame content marker).map fun added => (output ++ added, added.length)

/-- One call of a writer: some content, and the marker that is to close it. -/
structure Attempt where
  content : Bytes
  marker : Markup
  deriving DecidableEq, Repr

/-- How a call ends. -/
inductive Answer
  /-- A frame was added, with so many bytes. -/
  | ok (added : Nat)
  /-- Nothing was added. -/
  | error (fault : FrameFault)
  /-- The call has not returned, because an output cannot grow that far; nobody reads on from it. -/
  | lost
  deriving DecidableEq, Repr

/-- The most bytes a frame with some content can have. -/
def longest (writer : Writer) (content : Bytes) : Nat :=
  Escape.maxLength content.length writer.runLength + writer.runLength

/--
Makes one call on an output of any length: its answer, and the output it leaves, which is the one it
was given if it does not return.
-/
def attempt (writer : Writer) (output : Bytes) (attempt : Attempt) : Answer × Bytes :=
  let escaped := Escape.encode writer.runLength attempt.content
  -- Sizes are numbers of 64 bits, and sums beyond them wrap.
  let asked := writer.longest attempt.content % UInt64.size
  let size := (escaped.length + writer.runLength) % UInt64.size
  if attempt.marker.closes then
    -- Room is asked for twice: before the content is copied, and for the terminator.
    if allocationBound ≤ output.length + asked then (.lost, output)
    else if writer.maxFrame < size then (.error (.tooLarge size writer.maxFrame), output)
    else if allocationBound ≤ (output ++ escaped).length + writer.runLength then (.lost, output)
    else (.ok size, output ++ escaped ++ List.replicate writer.runLength attempt.marker.byte)
  else (.error (.notTerminator attempt.marker), output)

/-- Makes some calls in order on one output: their answers, and the output they leave. -/
def attemptAll (writer : Writer) (output : Bytes) : List Attempt → List Answer × Bytes
  | [] => ([], output)
  | first :: rest =>
    -- Nothing follows a call that does not return.
    match writer.attempt output first with
    | (.lost, output) => ([.lost], output)
    | (answer, output) =>
      let (answers, output) := writer.attemptAll output rest
      (answer :: answers, output)

end Writer

end SentinelRounds
