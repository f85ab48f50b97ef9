import SentinelRounds.Frame.Scanner
import SentinelRounds.Round.Fault

/-! The sizes and modes that a round runs with. -/

namespace SentinelRounds

/-- The encoding of headers. -/
inductive Encoding
  | binary
  | json
  deriving DecidableEq, Repr, Inhabited

namespace Encoding

/-- The name an encoding has in settings. -/
def name : Encoding → String
  | .binary => "bincode"
  | .json => "json"

/-- Every encoding, in the order the binary layout numbers them. -/
def all : List Encoding := [.binary, .json]

/-- How the choice of an encoding is itself encoded. -/
def schema : Schema Encoding := .choice all name

/-- The bytes of a value. -/
def encode {α : Type} (encoding : Encoding) (schema : Schema α) (value : α) : Bytes :=
  match encoding with
  | .binary => schema.binary.put value
  | .json => schema.json.print value

/-- The value that some bytes stand for; only the binary layout tolerates bytes after it. -/
def decode {α : Type} (encoding : Encoding) (schema : Schema α) (bytes : Bytes) :
    Except CodecFault α :=
  -- A text has to end with its value, while a layout of fixed parts says where it ends.
  match encoding with
  | .binary =>
    match schema.binary.get bytes with
    | .ok (value, _) => .ok value
    | .error fault => .error (.binary fault)
  | .json =>
    match schema.json.decode bytes with
    | .ok value => .ok value
    | .error fault => .error (.json fault)

end Encoding

/-- How reserved values are encoded. -/
def Markup.schema : Schema Markup := .choice Markup.all Markup.name

/-- The tunables of one end of a connection. -/
structure Settings where
  /-- Receive buffer size of the header phase. -/
  headerCapacity : Nat := 65536
  /-- Receive buffer size of one message chunk. -/
  messageCapacity : Nat := 81920
  /-- Body bytes per message chunk. -/
  batchSize : Nat := 65536
  /-- Identical closing bytes that make a terminator. -/
  runLength : Nat := Scanner.defaultRunLength
  /-- Whether to ask for strict alternation of request and response. -/
  synchronic : Bool := false
  encoding : Encoding := .binary
  deriving DecidableEq, Repr, Inhabited

namespace Settings

/-- How settings are encoded; every field has a fallback. -/
def schema : Schema Settings :=
  let standard : Settings := {}
  .record "TransferConfig"
    (.field "header_capacity" (.natural 8 "usize") (some standard.headerCapacity) <|
      .field "message_capacity" (.natural 8 "usize") (some standard.messageCapacity) <|
      .field "batch_size" (.natural 8 "usize") (some standard.batchSize) <|
      .field "run_length" (.natural 8 "usize") (some standard.runLength) <|
      .field "synchronic" .flag (some standard.synchronic) <|
      .field "encoding" Encoding.schema (some standard.encoding) .done)
    (fun (headerCapacity, messageCapacity, batchSize, runLength, synchronic, encoding, ()) =>
      { headerCapacity, messageCapacity, batchSize, runLength, synchronic, encoding })
    (fun settings =>
      (settings.headerCapacity, settings.messageCapacity, settings.batchSize, settings.runLength,
        settings.synchronic, settings.encoding, ()))

/-- The most bytes that the frame of one chunk can take. -/
def maxChunkFrame (settings : Settings) : Nat :=
  -- A batch that is all closing bytes takes the most escapes.
  Escape.maxLength settings.batchSize settings.runLength + settings.runLength

/-- Whether rounds can run with these settings if a chunk takes so much; the first fault counts. -/
def checkFor (settings : Settings) (chunkFrame : Nat) : Except SettingsFault Unit :=
  -- Every batch has to fit its frame, but whether a header fits shows only when it is sent.
  if settings.runLength < 2 then .error .shortRun
  else if settings.batchSize = 0 then .error .noBatch
  else if settings.messageCapacity < chunkFrame then
    .error (.chunkOverflow settings.batchSize chunkFrame settings.messageCapacity)
  else if settings.headerCapacity ≤ settings.runLength then .error .shortHeader
  else .ok ()

/-- Whether rounds can run with these settings. -/
def check (settings : Settings) : Except SettingsFault Unit :=
  -- The size of a chunk frame is summed up in words, which wrap around.
  settings.checkFor (settings.maxChunkFrame % UInt64.size)

/-- Whether both receive buffers can be allocated; a round without them never starts. -/
def Allocates (settings : Settings) : Prop :=
  settings.headerCapacity < allocationBound ∧ settings.messageCapacity < allocationBound

instance (settings : Settings) : Decidable settings.Allocates :=
  inferInstanceAs (Decidable (_ ∧ _))

/-- The receive buffer size of a phase, which also bounds the frames sent in it. -/
def capacity (settings : Settings) : Phase → Nat
  | .header => settings.headerCapacity
  | .message => settings.messageCapacity

/-- The writer of a phase's frames: the peer's buffer of the same size has to hold them. -/
def writer (settings : Settings) (phase : Phase) : Writer :=
  ⟨settings.runLength, settings.capacity phase⟩

end Settings

end SentinelRounds
