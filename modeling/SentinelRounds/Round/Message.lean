import SentinelRounds.Round.Header

/-! The message phase of one direction of a round. -/

namespace SentinelRounds

/-- The items of one direction and the chunks they take. -/
structure Message (ι : Type) where
  items : List ι := []
  itemsCount : Nat := 0
  chunksCount : Nat := 0
  /-- Chunks consumed or produced for the active item. -/
  currentChunk : Nat := 0
  /-- Declared chunks of each received item. -/
  inputChunks : List UInt32 := []
  /-- Declared chunks of each sent item. -/
  outputChunks : List UInt32 := []
  deriving DecidableEq, Repr

namespace Message

/-- A message of the given items, nothing of which has travelled. -/
def ofItems {ι : Type} (items : List ι) : Message ι := { items, itemsCount := items.length }

/-- Replaces the items and nothing else. -/
def setItems {ι : Type} (message : Message ι) (items : List ι) : Message ι :=
  { message with items, itemsCount := items.length }

/-- Prepares to receive located items with the chunks declared for them. -/
def expect {ι : Type} (message : Message ι) (items : List ι) (declared : List UInt32) :
    Message ι :=
  { message.setItems items with
    inputChunks := declared, chunksCount := Descriptor.total declared, currentChunk := 0 }

/-- Prepares to send items as they have been announced. -/
def announce {ι : Type} (message : Message ι) (announced : List Descriptor) : Message ι :=
  -- The number of items is that of the announcement, which a closing round leaves empty.
  let declared := announced.map Descriptor.chunks
  { message with
    outputChunks := declared
    itemsCount := announced.length
    chunksCount := Descriptor.total declared
    currentChunk := 0 }

end Message

end SentinelRounds
