import SentinelRounds.Round.Descriptor
import SentinelRounds.Round.Identity

/-! The header phase of one direction of a round. -/

namespace SentinelRounds

/-- The protocol version that every header carries. -/
def protocolVersion : UInt32 := 1

/-- What one end announces before its message. -/
structure Header where
  version : UInt32 := protocolVersion
  identity : Identity := {}
  items : List Descriptor := []
  itemsCount : UInt32 := 0
  /-- Message chunks announced across all items. -/
  chunksCount : UInt64 := 0
  synchronic : Bool := false
  denied : Bool := false
  close : Bool := false
  errors : UInt32 := 0
  notice : Option String := none
  deriving DecidableEq, Repr, Inhabited

namespace Header

/-- How headers are encoded. -/
def schema : Schema Header :=
  .record "TransferHeader"
    (.field "version" .word32 none <|
      .field "identity" Identity.schema none <|
      .field "data" (.list Descriptor.schema) none <|
      .field "items_count" .word32 none <|
      .field "objects_count" .word64 none <|
      .field "synchronic" .flag none <|
      .field "denied" .flag none <|
      .field "close" .flag none <|
      .field "errors" .word32 none <|
      .field "notice" (.optional .text) none .done)
    (fun (version, identity, items, itemsCount, chunksCount, synchronic, denied, close, errors,
        notice, ()) =>
      { version, identity, items, itemsCount, chunksCount, synchronic, denied, close, errors,
        notice })
    (fun header =>
      (header.version, header.identity, header.items, header.itemsCount, header.chunksCount,
        header.synchronic, header.denied, header.close, header.errors, header.notice, ()))

/-- The chunks of some announced items together. -/
def totalChunks (items : List Descriptor) : Nat :=
  Descriptor.total (items.map Descriptor.chunks)

/-- Announces the given items. -/
def setItems (header : Header) (items : List Descriptor) : Header :=
  -- The counts wrap around as the words that they are sent in do.
  { header with
    items
    itemsCount := UInt32.ofNat items.length
    chunksCount := UInt64.ofNat (totalChunks items) }

/-- A notice with one more line. -/
def joinNotice (notice : Option String) (line : String) : String :=
  -- Lines are added at the end, so a reader sees the notes in order.
  match notice with
  | some earlier => earlier ++ "\n" ++ line
  | none => line

/-- Adds a line to the notice. -/
def appendNotice (header : Header) (line : String) : Header :=
  { header with notice := some (joinNotice header.notice line) }

/-- Whether each announced item has a key and at least one chunk; the first fault counts. -/
def checkItems : List Descriptor → Except ContractFault Unit
  -- An empty announcement is fine.
  | [] => .ok ()
  | item :: rest =>
    if item.key = "" then .error .noKey
    else if item.chunks = 0 then .error (.noChunks item.key)
    else checkItems rest

/-- Whether a received header can be answered; the first fault counts. -/
def check (header : Header) : Except RoundFault Unit :=
  if header.version ≠ protocolVersion then
    .error (.versionMismatch protocolVersion header.version)
  else if header.itemsCount.toNat ≠ header.items.length then
    .error (.contract (.countMismatch header.itemsCount header.items.length))
  else
    match checkItems header.items with
    | .ok () => .ok ()
    | .error fault => .error (.contract fault)

/-- Why a header refuses the round outright; only a client honours a denial. -/
def refusal (header : Header) : Role → Option String
  -- A server reads a denial without acting on it.
  | .client =>
    if header.denied then some (header.notice.getD "Registration denied by server") else none
  | .server => none

end Header

namespace Role

/-- Whether a role takes the peer's mode as its own. -/
def adoptsMode : Role → Bool
  | .client => false
  | .server => true

/-- Whether a role may reply before the incoming message is complete. -/
def pipelines (role : Role) (synchronic : Bool) : Bool :=
  -- A client has always sent its message before it reads a reply.
  match role with
  | .client => false
  | .server => !synchronic

end Role

end SentinelRounds
