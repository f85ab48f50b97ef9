import SentinelRounds.Round.Fault

/-! What a header announces of an item. -/

namespace SentinelRounds

/-- The announcement of one item. -/
structure Descriptor where
  key : String := ""
  /-- Body size in bytes. -/
  size : UInt64 := 0
  /-- Message chunks that the body occupies. -/
  chunks : UInt32 := 0
  deriving DecidableEq, Repr, Inhabited

namespace Descriptor

/-- How descriptors are encoded. -/
def schema : Schema Descriptor :=
  .record "ItemDescriptor"
    (.field "key" .text none <| .field "size" .word64 none <| .field "chunks" .word32 none .done)
    (fun (key, size, chunks, ()) => ⟨key, size, chunks⟩)
    (fun descriptor => (descriptor.key, descriptor.size, descriptor.chunks, ()))

/-- Some declared counts together. -/
def total : (counts : List UInt32) → Nat
  -- The sum is not bounded here, although each count is.
  | [] => 0
  | count :: rest => count.toNat + total rest

/-- How many batches of a body there are; an empty body still makes one. -/
def chunkCount (size batch : Nat) : Nat := max ((size + batch - 1) / batch) 1

/-- The announcement of a body of `size` bytes sent in batches, if its chunks can be counted. -/
def ofSize (key : String) (size batch : Nat) : Except RoundFault Descriptor :=
  -- A batch has at least one byte.
  let batch := max batch 1
  let chunks := chunkCount size batch
  if chunks < UInt32.size then .ok ⟨key, UInt64.ofNat size, UInt32.ofNat chunks⟩
  else .error (.contract (.tooManyChunks key batch))

end Descriptor

end SentinelRounds
