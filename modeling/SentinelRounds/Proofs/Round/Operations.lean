import SentinelRounds.Round.Action
import SentinelRounds.Round.Send

/-! Whatever is done to a round, as one operation after the other, and how each is answered. -/

namespace SentinelRounds

namespace Round

variable {δ ι : Type}

/-- One thing that is done to a round. -/
inductive Operation (ι : Type)
  /-- As many bytes arrive as a phase has room for, and what it has received is searched. -/
  | read (phase : Phase) (bytes : Bytes)
  /-- The frame that the last successful read of a phase completed is taken. -/
  | take (phase : Phase)
  /-- A transition, which receives a frame or sends one. -/
  | dispatch (transit : Transit) (phase : Phase) (inbound : Option Inbound)
  /-- A change by the code around the round. -/
  | act (action : Action ι)
  /-- The bytes that are ready to go out are taken. -/
  | flush
  /-- A signal is set. -/
  | raise (signal : Signal)
  /-- Every signal is set. -/
  | release
  /-- The next round is prepared. -/
  | reset
  deriving DecidableEq, Repr

/-- What can be seen of one operation from outside. -/
inductive Answer
  | done
  /-- What a search has found, and the receive space that is free after it. -/
  | found (result : Except RoundFault (Option Markup)) (spare : Nat)
  | frame (content : Option Bytes)
  | went (result : Except RoundFault Markup)
  | bytes (bytes : Bytes)
  deriving Repr

section

variable [Transferable ι] [Reversible ι] [Depot δ ι]

/-- Does one thing to the round of a role. -/
def perform (role : Role) (round : Round ι) (depot : δ) : Operation ι → Answer × Round ι × δ
  -- Only a transition can reach the depot.
  | .read phase bytes =>
    let fitting := bytes.take (round.context.intake.spare phase)
    let (found, context) := (round.context.stage phase fitting).read phase fitting.length
    (.found found (context.intake.spare phase), { round with context }, depot)
  | .take phase =>
    let (content, context) := round.context.takeFrame phase
    (.frame content, { round with context }, depot)
  | .dispatch transit phase inbound =>
    let (result, round, depot) := round.dispatch depot role transit phase inbound
    (.went result, round, depot)
  | .act action => (.done, action.apply role round, depot)
  | .flush =>
    let (bytes, context) := round.context.takeOutput
    (.bytes bytes, { round with context }, depot)
  | .raise signal => (.done, round.onContext fun context => context.raise signal, depot)
  | .release => (.done, round.onContext Context.release, depot)
  | .reset => (.done, round.reset role, depot)

end

/-- What some operations have made of a round and its depot, and how they were answered. -/
structure History (δ ι : Type) where
  round : Round ι
  depot : δ
  answers : List Answer := []

namespace History

variable [Transferable ι] [Reversible ι] [Depot δ ι]

/-- One more operation. -/
def perform (role : Role) (history : History δ ι) (operation : Operation ι) : History δ ι :=
  let (answer, round, depot) := history.round.perform role history.depot operation
  { round, depot, answers := history.answers ++ [answer] }

/-- Some more operations, one after the other. -/
def performAll (role : Role) (history : History δ ι) (operations : List (Operation ι)) :
    History δ ι :=
  operations.foldl (perform role) history

/-- What every operation of some kind keeps of a round, any number of them keeps. -/
theorem performAll_keeps {role : Role} {allowed : Operation ι → Prop} {holds : Round ι → Prop}
    (kept : ∀ (round : Round ι) (depot : δ) (operation : Operation ι), allowed operation →
      holds round → holds (round.perform role depot operation).2.1)
    {operations : List (Operation ι)} (all : ∀ operation ∈ operations, allowed operation)
    {history : History δ ι} (initially : holds history.round) :
    holds (history.performAll role operations).round := by
  -- The induction is on the operations that are left, whatever has been done before them.
  induction operations generalizing history with
  | nil => exact initially
  | cons operation operations ih =>
    obtain ⟨here, later⟩ := List.forall_mem_cons.mp all
    apply ih later
    exact kept history.round history.depot operation here initially

end History

end Round

end SentinelRounds
