import SentinelRounds.Round.State

/-! What the code around a round may do to it between its phases. -/

namespace SentinelRounds

/-- One change to a round. -/
inductive Action (ι : Type)
  | synchronic (value : Bool)
  | close (value : Bool)
  | denied (value : Bool)
  /-- Stops the round. -/
  | halt
  /-- Adds a line to the outgoing notice. -/
  | notice (text : String)
  /-- Makes a new outgoing message of some items. -/
  | items (items : List ι)
  /-- Replaces the items of the outgoing message and nothing else in it. -/
  | setItems (items : List ι)
  /-- Empties the outgoing message. -/
  | clear
  /-- Makes the incoming items the outgoing message. -/
  | echo
  /-- Makes the incoming items, with their bodies back to front, the outgoing message. -/
  | reverse
  /-- Asks for strict alternation if the request announced items. -/
  | synchronicIfItems
  deriving DecidableEq, Repr

namespace Action

variable {ι : Type}

/-- The round of a role after one change. -/
def apply [Reversible ι] (action : Action ι) (role : Role) (round : Round ι) : Round ι :=
  -- Only the outgoing message is ever replaced; the incoming one is at most read.
  match action with
  | .synchronic value => round.onContext fun context => { context with synchronic := value }
  | .close value => round.onContext fun context => { context with close := value }
  | .denied value => round.onContext fun context => { context with denied := value }
  | .halt => round.onContext Context.halt
  | .notice text => round.appendNotice role text
  | .items fresh => round.setOutgoing role (.ofItems fresh)
  | .setItems fresh => round.setOutgoing role ((round.outgoing role).setItems fresh)
  | .clear => round.setOutgoing role {}
  | .echo => round.setOutgoing role (.ofItems (round.incoming role).items)
  | .reverse =>
    round.setOutgoing role (.ofItems ((round.incoming role).items.map Reversible.reversed))
  | .synchronicIfItems =>
    if 0 < round.requestHeader.itemsCount then
      round.onContext fun context => { context with synchronic := true }
    else round

/-- The round of a role after some changes in order. -/
def applyAll [Reversible ι] (actions : List (Action ι)) (role : Role) (round : Round ι) :
    Round ι :=
  actions.foldl (fun round action => action.apply role round) round

end Action

end SentinelRounds
