import SentinelRounds.Round.State

/-! Receiving: what an incoming header or chunk makes of a round and a depot. -/

namespace SentinelRounds

namespace Round

variable {δ ι : Type}

/-- The header that a received frame stands for, if it can be answered. -/
def readHeader (encoding : Encoding) (frame : Bytes) : Except RoundFault Header :=
  -- A header that decodes may still announce what no peer can answer.
  match encoding.decode Header.schema frame with
  | .error fault => .error (.codec fault)
  | .ok header =>
    match header.check with
    | .error fault => .error fault
    | .ok () => .ok header

/-- Takes a readable header over: the peer, its mode if the role follows it, and its closing. -/
def adopt (round : Round ι) (role : Role) (header : Header) : Round ι :=
  -- A header that does not close takes no closing back.
  let round := round.onContext fun context =>
    { context with
      peer := some header.identity
      synchronic := if role.adoptsMode then header.synchronic else context.synchronic
      close := context.close || header.close }
  round.setIncomingHeader role header

/-- How a depot answers the arrival of a peer. -/
inductive Admission
  /-- The peer is known, or has been registered with a notice. -/
  | admitted (notice : Option String)
  | rejected (reason : String)
  /-- The peer was registered but still has no place to merge into. -/
  | lost (notice : String)
  deriving DecidableEq, Repr

/-- Admits a peer, registering it if it is not known. -/
def welcome [Depot δ ι] (depot : δ) (identity : Identity) : Admission × δ :=
  -- A depot may say that it has registered a peer and still have no place for it.
  if Depot.contains depot identity then (.admitted none, depot)
  else
    match Depot.register depot identity with
    | (.rejected reason, depot) => (.rejected reason, depot)
    | (.accepted notice, depot) =>
      if Depot.contains depot identity then (.admitted (some notice), depot)
      else (.lost notice, depot)

/-- Prepares for the announced items, which have been located. -/
def expect (round : Round ι) (role : Role) (header : Header) (items : List ι) : Round ι :=
  -- With nothing to wait for, the response need not wait either.
  let declared := header.items.map Descriptor.chunks
  let round := round.setIncoming role ((round.incoming role).expect items declared)
  let count := header.itemsCount.toNat
  round.onContext fun context =>
    let idle := count = 0 ∨ context.close = true
    let context := { context with
      receiving := { active := !decide idle, item := 0, left := count, chunk := 0 } }
    if idle then context.endMessage else context

/-- What a readable header from an admitted peer leads to. -/
def acceptItems [Depot δ ι] (round : Round ι) (depot : δ) (role : Role) (header : Header) :
    Round ι :=
  -- The denial of an earlier round is lifted even if an item cannot be located.
  let round := round.onContext fun context => { context with denied := false }
  match Depot.locateAll depot header.identity header.items with
  | .error fault => if fault.isFatal then round else round.fault role fault
  | .ok items => round.expect role header items

/-- Receives a header frame: every fault and refusal ends up in the response. -/
def receiveHeader [Depot δ ι] (round : Round ι) (depot : δ) (role : Role) (frame : Bytes) :
    Round ι × δ :=
  -- A header that cannot be read leaves the peer of the last valid one in place.
  match readHeader round.context.settings.encoding frame with
  | .error fault => (round.fault role fault, depot)
  | .ok header =>
    let round := round.adopt role header
    -- The header is taken over before it is judged, so a refused peer is known as well.
    match header.refusal role with
    | some reason => (round.deny role reason, depot)
    | none =>
      match welcome depot header.identity with
      | (.rejected reason, depot) => (round.deny role reason, depot)
      | (.lost notice, depot) =>
        ((round.appendNotice role notice).fault role (.missingTarget header.identity.id), depot)
      | (.admitted (some notice), depot) =>
        ((round.appendNotice role notice).acceptItems depot role header, depot)
      | (.admitted none, depot) => (round.acceptItems depot role header, depot)

/--
The fault that keeps receiving a header from returning, if there is one: an item of an admitted peer
that no machine has the memory for.
-/
def fatality [Depot δ ι] (round : Round ι) (depot : δ) (role : Role) (frame : Bytes) :
    Option RoundFault :=
  -- Items are located last, so the round has been told of the peer by then.
  match readHeader round.context.settings.encoding frame with
  | .error _ => none
  | .ok header =>
    match header.refusal role, welcome depot header.identity with
    | none, (.admitted _, depot) =>
      match Depot.locateAll depot header.identity header.items with
      | .error fault => if fault.isFatal then some fault else none
      | .ok _ => none
    | _, _ => none

/-- Counts an item as received and moves to the next one, if there is one. -/
def finishItem (context : Context) : Context :=
  -- The index stays on the last item, as it does for sending.
  let left := context.receiving.left - 1
  if left = 0 then
    { context with receiving := { context.receiving with active := false, left, chunk := 0 } }.raise
      .chunksReceived
  else
    { context with
      receiving := { context.receiving with left, chunk := 0, item := context.receiving.item + 1 } }

/-- The chunks declared for an item; an undeclared item has one. -/
def declaredChunks (chunks : List UInt32) (index : Nat) : Nat :=
  match chunks[index]? with
  | some count => count.toNat
  | none => 1

/-- Folds a chunk into the item at the receive index, whose place and peer are known. -/
def absorbChunk [Transferable ι] [Depot δ ι] (round : Round ι) (depot : δ) (role : Role)
    (peer : Identity) (item : ι) (frame : Bytes) (kind : Markup) : Round ι × δ :=
  let index := round.context.receiving.item
  -- The item keeps whatever the chunk has made of it, even if it refuses the chunk.
  let (absorbed, item) := Transferable.absorb item frame
  let incoming := round.incoming role
  let incoming := { incoming with items := incoming.items.set index item }
  let round := (round.setIncoming role incoming).onContext fun context =>
    { context with itemIndex := index }
  match absorbed with
  | .error fault => (round.fault role fault, depot)
  | .ok () =>
    let chunk := round.context.receiving.chunk + 1
    let round := round.setIncoming role { incoming with currentChunk := chunk }
    let round := round.onContext fun context =>
      { context with receiving := { context.receiving with chunk } }
    -- An item is complete at its last declared chunk or at an earlier end.
    if kind = .final ∨ declaredChunks incoming.inputChunks index ≤ chunk then
      match Depot.merge depot peer item with
      | (.error fault, depot) => (round.fault role fault, depot)
      | (.ok (), depot) => (round.onContext finishItem, depot)
    else (round, depot)

/-- Receives a chunk frame: every fault ends up in the response. -/
def receiveMessage [Transferable ι] [Depot δ ι] (round : Round ι) (depot : δ) (role : Role)
    (frame : Bytes) (kind : Markup) : Round ι × δ :=
  let index := round.context.receiving.item
  -- Nothing may be absorbed before a header has named the peer and the items.
  if round.context.receiving.left = 0 then
    (round.fault role (.unexpectedChunk index), depot)
  else
    match round.context.peer with
    | none => (round.fault role (.missingTarget "unknown peer"), depot)
    | some peer =>
      match (round.incoming role).items[index]? with
      | none => (round.fault role (.unexpectedChunk index), depot)
      | some item => round.absorbChunk depot role peer item frame kind

end Round

end SentinelRounds
