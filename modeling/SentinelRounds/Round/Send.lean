import SentinelRounds.Round.Receive

/-! Sending: how a round announces its items and cuts them into chunks. -/

namespace SentinelRounds

namespace Round

variable {ι : Type}

/-- The announcements of some items in order, up to the first item that has none. -/
def describeAll [Transferable ι] (batch : Nat) : List ι → Except RoundFault (List Descriptor)
  -- One item that cannot be announced keeps all of them from being announced.
  | [] => .ok []
  | item :: rest =>
    match Transferable.descriptor item batch with
    | .error fault => .error fault
    | .ok descriptor =>
      match describeAll batch rest with
      | .error fault => .error fault
      | .ok descriptors => .ok (descriptor :: descriptors)

/-- What a round announces: nothing once it is closing. -/
def announcement [Transferable ι] (round : Round ι) (role : Role) :
    Except RoundFault (List Descriptor) :=
  -- The prepared items stay in the message, but the peer does not hear of them.
  if round.context.close then .ok []
  else describeAll round.context.settings.batchSize (round.outgoing role).items

/-- The header that announces some items for a context. -/
def headerFor (context : Context) (header : Header) (items : List Descriptor) : Header :=
  -- The version and a notice are whatever the round has put there before.
  { header.setItems items with
    identity := context.identity
    synchronic := context.synchronic
    denied := context.denied
    close := context.close
    errors := context.errors }

/-- The round once its announcement is settled, before the header is written. -/
def announce (round : Round ι) (role : Role) (items : List Descriptor) : Round ι :=
  -- The verdict on the other direction travels along with the items.
  let header := headerFor round.context (round.outgoingHeader role) items
  let round := round.setOutgoing role ((round.outgoing role).announce items)
  let round := round.setOutgoingHeader role header
  -- A message without items has nothing to send, so its phase is over already.
  round.onContext fun context =>
    { context with
      sending := { active := decide (0 < header.itemsCount), item := 0, chunk := 0, offset := 0 } }

/-- Writes a frame into the output of a round. -/
def writeFrame (round : Round ι) (phase : Phase) (content : Bytes) (kind : Markup) :
    Except RoundFault Markup × Round ι :=
  match round.context.writeFrame phase content kind with
  | (.error fault, context) => (.error fault, { round with context })
  | (.ok _, context) => (.ok kind, { round with context })

/-- Announces the outgoing items and writes the header. -/
def sendHeader [Transferable ι] (round : Round ι) (role : Role) :
    Except RoundFault Markup × Round ι :=
  -- Items that cannot be described leave the round as it was.
  match round.announcement role with
  | .error fault => (.error fault, round)
  | .ok items =>
    let round := round.announce role items
    let bytes := round.context.settings.encoding.encode Header.schema (round.outgoingHeader role)
    round.writeFrame .header bytes .final

/-- Notes which chunk of the outgoing item is under way. -/
def noteChunk (round : Round ι) (role : Role) : Round ι :=
  -- The count is taken before the chunk is written, so a chunk that fails is counted too.
  round.setOutgoing role
    { round.outgoing role with currentChunk := round.context.sending.chunk }

/-- Moves past an item whose last chunk has been written. -/
def finishSending (context : Context) (index count : Nat) : Context :=
  -- After the last item the index stays, and only the phase ends.
  let sending := { context.sending with chunk := 0 }
  if index + 1 < count then
    { context with sending := { sending with item := index + 1, offset := 0 } }
  else { context with sending := { sending with active := false } }

/-- Writes a chunk and moves on if it was the item's last. -/
def sendChunk (round : Round ι) (role : Role) (chunk : Bytes) (kind : Markup) :
    Except RoundFault Markup × Round ι :=
  -- Only the last chunk of an item moves the index, and only once it has been written.
  let index := round.context.sending.item
  let round := round.noteChunk role
  match round.writeFrame .message chunk kind with
  | (.error fault, round) => (.error fault, round)
  | (.ok kind, round) =>
    let count := (round.outgoing role).items.length
    if kind = .final then (.ok kind, round.onContext fun context => finishSending context index count)
    else (.ok kind, round)

/-- Sends the next chunk of the outgoing message. -/
def sendMessage [Transferable ι] (round : Round ι) (role : Role) :
    Except RoundFault Markup × Round ι :=
  let index := round.context.sending.item
  let batch := round.context.settings.batchSize
  match (round.outgoing role).items[index]? with
  | none => (.error (.contract (.noItem index)), round)
  | some item =>
    let declared := declaredChunks (round.outgoing role).outputChunks index
    let round := round.onContext fun context => { context with itemIndex := index }
    -- Room is made for a whole batch, however short the body is.
    if allocationBound ≤ batch then (.error (.noMemory batch), round)
    else
      match Transferable.serialize item round.context.sending.offset batch with
      -- An exhausted body still owes its last chunk, which is then empty.
      | (_, none) => round.sendChunk role [] .final
      | (chunk, some next) =>
        -- The peer has sized its buffer for whole batches, so none may be longer.
        if batch < chunk.length then
          (.error (.contract (.overfullBatch index chunk.length batch)), round)
        else
          let count := round.context.sending.chunk + 1
          let round := round.onContext fun context =>
            { context with sending := { context.sending with offset := next, chunk := count } }
          -- The declaration decides which chunk is the last, not the end of the body.
          round.sendChunk role chunk (if declared ≤ count then .final else .block)

/-- A received frame and the kind of run that closed it. -/
structure Inbound where
  frame : Bytes
  kind : Markup
  deriving DecidableEq, Repr

/-- Runs one transition of a round; receiving needs a frame. -/
def dispatch {δ : Type} [Transferable ι] [Depot δ ι] (round : Round ι) (depot : δ) (role : Role) :
    Transit → Phase → Option Inbound → Except RoundFault Markup × Round ι × δ
  -- Sending ignores a frame, and only receiving touches the depot.
  | .receive, phase, none => (.error (.contract (.noFrame phase)), round, depot)
  | .receive, .header, some inbound =>
    (match round.fatality depot role inbound.frame with
      | some fault => .error fault
      | none => .ok inbound.kind,
      round.receiveHeader depot role inbound.frame)
  | .receive, .message, some inbound =>
    (.ok inbound.kind, round.receiveMessage depot role inbound.frame inbound.kind)
  | .send, .header, _ =>
    let (result, round) := round.sendHeader role
    (result, round, depot)
  | .send, .message, _ =>
    let (result, round) := round.sendMessage role
    (result, round, depot)

end Round

end SentinelRounds
