import SentinelRounds.Round.Action

/-! What runs once per completed phase, and what one end keeps for all its links. -/

namespace SentinelRounds

/-- The start of a link, or a completed phase. -/
inductive Event
  | connected
  | completed (transit : Transit) (phase : Phase)
  deriving DecidableEq, Repr

/-- The name an event has in answers. -/
def Event.name : Event → String
  | .connected => "connected"
  | .completed .receive .header => "header_received"
  | .completed .send .header => "header_sent"
  | .completed .receive .message => "message_received"
  | .completed .send .message => "message_sent"

/-- Whether an event ends a phase in a direction. -/
def Event.isOf (transit : Transit) : Event → Bool
  | .connected => false
  | .completed other _ => other == transit

/-- The changes that events make to rounds. -/
structure Hooks (ι : Type) where
  actions : Event → Round ι → List (Action ι)
  /-- Whether events are written down. -/
  journaled : Bool := true

/-- Hooks that change nothing and write nothing down. -/
def Hooks.none {ι : Type} : Hooks ι := { actions := fun _ _ => [], journaled := false }

/-- What one end shares between its links: a depot, and the events so far. -/
structure Site (δ : Type) where
  depot : δ
  journal : List Event := []
  deriving DecidableEq, Repr

/-- Runs the hooks of an event on a round. -/
def Hooks.run {δ ι : Type} [Reversible ι] (hooks : Hooks ι) (event : Event) (role : Role)
    (round : Round ι) (site : Site δ) : Round ι × Site δ :=
  -- The hooks see the round as the phase has left it, before any of their own changes.
  (Action.applyAll (hooks.actions event round) role round,
    if hooks.journaled then { site with journal := site.journal ++ [event] } else site)

end SentinelRounds
