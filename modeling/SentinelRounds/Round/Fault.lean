import SentinelRounds.Frame.Writer
import SentinelRounds.Round.Phase
import SentinelRounds.Wire.Schema

/-! Everything that can go wrong in a round, and how it is worded. -/

namespace SentinelRounds

/-- Why a value or a frame cannot be encoded or decoded. -/
inductive CodecFault
  | binary (fault : Binary.Fault)
  | json (fault : Json.Fault)
  | frame (fault : FrameFault)
  deriving DecidableEq, Repr

/-- The wording of an encoding fault. -/
def CodecFault.message : CodecFault → String
  | .binary fault => "Serialization error: " ++ fault.message
  | .json fault => "JSON error: " ++ fault.message
  | .frame fault => fault.message

/-- The short name that tells encoding faults apart. -/
def CodecFault.kind : CodecFault → String
  | .binary _ => "Codec/Serialization"
  | .json _ => "Codec/Json"
  | .frame (.tooLarge ..) => "Codec/FrameTooLarge"
  | .frame (.notTerminator _) => "Codec/NotTerminator"
  | .frame (.missingEscape _) => "Codec/MissingEscape"

/-- How an item or an announcement breaks its contract. -/
inductive ContractFault
  /-- The chunks of an item do not fit the counters of a header. -/
  | tooManyChunks (key : String) (batch : Nat)
  | countMismatch (announced : UInt32) (found : Nat)
  | noKey
  | noChunks (key : String)
  /-- A frame was to be received but none was given. -/
  | noFrame (phase : Phase)
  | noItem (index : Nat)
  | overfullBatch (index written batch : Nat)
  /-- An item refuses for reasons of its own. -/
  | refused (reason : String)
  deriving DecidableEq, Repr

/-- The wording of a broken contract. -/
def ContractFault.message : ContractFault → String
  -- The bound is the largest number that a word of a header can hold.
  | .tooManyChunks key batch => s!"{key} needs more than 4294967295 chunks of {batch} bytes"
  | .countMismatch announced found =>
    s!"items_count {announced.toNat} does not match {found} descriptors"
  | .noKey => "item without key"
  | .noChunks key => s!"item {key} announces no chunks"
  | .noFrame phase => phase.name ++ " receive without data"
  | .noItem index => s!"no item at index {index}"
  | .overfullBatch index written batch =>
    s!"item {index} wrote {written} bytes into a {batch} byte batch"
  | .refused reason => reason

/-- Why settings cannot be used. -/
inductive SettingsFault
  | shortRun
  | noBatch
  /-- A fully escaped chunk with its terminator would not fit the message buffer. -/
  | chunkOverflow (batch needed capacity : Nat)
  | shortHeader
  deriving DecidableEq, Repr

/-- The wording of unusable settings. -/
def SettingsFault.message : SettingsFault → String
  | .shortRun => "run_length must be at least 2"
  | .noBatch => "batch_size must be positive"
  | .chunkOverflow batch needed capacity =>
    s!"batch_size {batch} needs up to {needed} bytes per chunk, message_capacity is {capacity}"
  | .shortHeader => "header_capacity must exceed run_length"

/-- Why a step of a round fails. -/
inductive RoundFault
  | codec (fault : CodecFault)
  | contract (fault : ContractFault)
  | versionMismatch (expected found : UInt32)
  | missingTarget (name : String)
  | unexpectedChunk (index : Nat)
  /-- An item refuses a chunk, or a depot an item. -/
  | deserialize (reason : String)
  | settings (fault : SettingsFault)
  /-- An allocation of so many bytes, which no machine can make. -/
  | noMemory (size : Nat)
  deriving DecidableEq, Repr

/-- Whether a step that fails like this does not return, so that nobody records the fault. -/
def RoundFault.isFatal : RoundFault → Bool
  | .noMemory _ => true
  | _ => false

/-- The short name that tells failed steps apart. -/
def RoundFault.kind : RoundFault → String
  | .codec fault => fault.kind
  | .contract _ => "InvalidContract"
  | .versionMismatch .. => "VersionMismatch"
  | .missingTarget _ => "MissingTarget"
  | .unexpectedChunk _ => "UnexpectedChunk"
  | .deserialize _ => "Deserialize"
  | .settings _ => "Config"
  | .noMemory _ => "Panic"

/-- The wording of a failed step. -/
def RoundFault.message : RoundFault → String
  -- A fault of a part is worded by that part, after the name of the part.
  | .codec fault => "Codec error: " ++ fault.message
  | .contract fault => "Invalid transferable: " ++ fault.message
  | .versionMismatch expected found =>
    s!"Protocol version mismatch: local={expected.toNat}, remote={found.toNat}"
  | .missingTarget name => "No merge target for " ++ name
  | .unexpectedChunk index => s!"Unexpected chunk for item {index}"
  | .deserialize reason => "Deserialize error: " ++ reason
  | .settings fault => "Invalid configuration: " ++ fault.message
  | .noMemory _ => "capacity overflow"

end SentinelRounds
