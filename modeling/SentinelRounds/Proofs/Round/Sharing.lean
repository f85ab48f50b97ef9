import Mathlib.Logic.Function.Basic
import SentinelRounds.Proofs.Round.Operations
import SentinelRounds.Proofs.Round.Outcomes

/-! Several ends that share one depot, in whatever order they take their turns. -/

namespace SentinelRounds

namespace Round

variable {κ δ ι : Type}

/-- The header that an operation brings to a round, if it can be answered. -/
def Operation.header? (encoding : Encoding) : Operation ι → Option Header
  -- A frame that cannot be read brings no header.
  | .dispatch .receive .header (some inbound) => (readHeader encoding inbound.frame).toOption
  | _ => none

/-- Only a header frame that can be read brings a header. -/
theorem Operation.header?_eq_some_iff {encoding : Encoding} {operation : Operation ι}
    {header : Header} :
    operation.header? encoding = some header ↔ ∃ inbound,
      operation = .dispatch .receive .header (some inbound) ∧
        readHeader encoding inbound.frame = .ok header := by
  -- Of all operations, only the dispatch of a received header frame yields one.
  constructor
  · intro brought
    unfold header? at brought
    split at brought
    · rename_i inbound
      refine ⟨inbound, rfl, ?_⟩
      cases read : readHeader encoding inbound.frame with
      | error fault =>
        rw [read] at brought
        cases brought
      | ok found =>
        rw [read] at brought
        cases brought
        rfl
    · cases brought
  · rintro ⟨inbound, rfl, read⟩
    simp only [header?, read]
    rfl

/-- The headers that some operations bring to a round, in order. -/
def Operation.headers (encoding : Encoding) (operations : List (Operation ι)) : List Header :=
  operations.filterMap (header? encoding)

section Alike

variable {other : Type} [Depot δ ι] [Depot other ι] [Transferable ι] [Reversible ι]
  {alike : δ → other → Prop} (round : Round ι) {one : δ} {two : other} (initially : alike one two)
  (role : Role) (operation : Operation ι)
include initially

/--
An operation is done alike with depots that are alike for the peer of its header, if it brings one,
and for the peer from which an item is awaited.
-/
theorem perform_alike
    (welcomes : ∀ header, operation.header? round.context.settings.encoding = some header →
      ∃ admission first second, welcome one header.identity = (admission, first) ∧
        welcome two header.identity = (admission, second) ∧ alike first second ∧
        Depot.locateAll second header.identity header.items =
          Depot.locateAll first header.identity header.items)
    (merges : ∀ peer item, round.context.receiving.left ≠ 0 → round.context.peer = some peer →
      (Depot.merge two peer item).1 = (Depot.merge one peer item).1 ∧
        alike (Depot.merge one peer item).2 (Depot.merge two peer item).2) :
    let mine := round.perform role one operation
    let theirs := round.perform role two operation
    theirs.1 = mine.1 ∧ theirs.2.1 = mine.2.1 ∧ alike mine.2.2 theirs.2.2 := by
  -- Only a frame that is received can reach the depot.
  intro mine theirs
  cases operation with
  | dispatch transit phase inbound =>
    cases transit with
    | send => cases phase <;> cases inbound <;> exact ⟨rfl, rfl, initially⟩
    | receive =>
      cases inbound with
      | none => cases phase <;> exact ⟨rfl, rfl, initially⟩
      | some inbound =>
        cases phase with
        | header =>
          obtain ⟨answer, same, after⟩ := round.receiveHeader_alike initially role inbound.frame
            fun header read =>
              welcomes header (Operation.header?_eq_some_iff.mpr ⟨inbound, rfl, read⟩)
          simp only [mine, theirs, perform, dispatch, answer]
          exact ⟨trivial, same, after⟩
        | message =>
          obtain ⟨same, after⟩ := round.receiveMessage_alike initially role inbound.frame
            inbound.kind merges
          exact ⟨rfl, same, after⟩
  | _ => exact ⟨rfl, rfl, initially⟩

end Alike

/-- Welcoming a peer can do no more to a depot than to register it. -/
theorem welcome_depot [Depot δ ι] {holds : δ → Prop} {depot : δ} {identity : Identity}
    (initially : holds depot) (registered : holds (Depot.register depot identity).2) :
    holds (welcome depot identity).2 := by
  -- The depot is asked whether it knows the peer, and otherwise to register it.
  unfold welcome
  split
  · exact initially
  -- Whatever the depot answers, it is not asked again.
  split <;> rename_i answer <;> rw [answer] at registered
  · exact registered
  · split <;> exact registered

/--
All that an operation can do to a depot is to register the peer of a header, or to merge an item that
is awaited from the peer.
-/
theorem perform_depot [Depot δ ι] [Transferable ι] [Reversible ι] {holds : δ → Prop}
    (round : Round ι) {depot : δ} (initially : holds depot) (role : Role) (operation : Operation ι)
    (registers : ∀ header, operation.header? round.context.settings.encoding = some header →
      holds (Depot.register depot header.identity).2)
    (merges : ∀ peer item, round.context.receiving.left ≠ 0 → round.context.peer = some peer →
      holds (Depot.merge depot peer item).2) :
    holds (round.perform role depot operation).2.2 := by
  -- A depot is like itself while it holds what it held.
  let alike (depot other : δ) : Prop := holds depot
  have itself : alike depot depot := initially
  refine (round.perform_alike itself role operation (fun header brought => ?_)
    fun peer item awaited known => ⟨rfl, merges peer item awaited known⟩).2.2
  have kept : holds (welcome depot header.identity).2 :=
    welcome_depot initially (registers header brought)
  exact ⟨_, _, _, rfl, rfl, kept, rfl⟩

/-- Several ends with one depot, and how each of them has been answered. -/
structure Ends (κ δ ι : Type) where
  round : κ → Round ι
  depot : δ
  answers : κ → List Answer := fun _ => []

namespace Ends

/-- What has been done to one of the ends, as it sees it. -/
def history (ends : Ends κ δ ι) (who : κ) : History δ ι :=
  { round := ends.round who, depot := ends.depot, answers := ends.answers who }

variable [DecidableEq κ]

/-- What one end does in some turns that the ends take. -/
def turnsOf (who : κ) (turns : List (κ × Operation ι)) : List (Operation ι) :=
  (turns.filter fun turn => turn.1 = who).map (·.2)

/-- The turn of an end comes first among its own, and others do not count. -/
theorem turnsOf_cons (who : κ) (turn : κ × Operation ι) (turns : List (κ × Operation ι)) :
    turnsOf who (turn :: turns) =
      if turn.1 = who then turn.2 :: turnsOf who turns else turnsOf who turns := by
  -- The turns are filtered by their ends.
  unfold turnsOf
  by_cases own : turn.1 = who <;> simp [own]

/-- An end that takes its turns in a row takes just these. -/
theorem turnsOf_map (who other : κ) (operations : List (Operation ι)) :
    turnsOf who (operations.map (other, ·)) = if other = who then operations else [] := by
  -- All turns belong to the one end, so the filter keeps all or none.
  unfold turnsOf
  by_cases own : other = who <;> simp [List.filter_map, Function.comp_def, own]

/-- The turns of an end in two rows of turns. -/
theorem turnsOf_append (who : κ) (first second : List (κ × Operation ι)) :
    turnsOf who (first ++ second) = turnsOf who first ++ turnsOf who second := by
  simp only [turnsOf, List.filter_append, List.map_append]

variable [Transferable ι] [Reversible ι] [Depot δ ι]

/-- One turn of one end; the others notice at most a change of the depot. -/
def perform (role : κ → Role) (ends : Ends κ δ ι) (turn : κ × Operation ι) : Ends κ δ ι :=
  let after := (ends.history turn.1).perform (role turn.1) turn.2
  { round := Function.update ends.round turn.1 after.round
    depot := after.depot
    answers := Function.update ends.answers turn.1 after.answers }

/-- Some turns, one after the other. -/
def performAll (role : κ → Role) (ends : Ends κ δ ι) (turns : List (κ × Operation ι)) :
    Ends κ δ ι :=
  turns.foldl (perform role) ends

section Turn

variable (role : κ → Role) (ends : Ends κ δ ι) (who : κ) (operation : Operation ι)

/-- The end whose turn it is sees its operation done. -/
theorem history_perform_self :
    (ends.perform role (who, operation)).history who =
      (ends.history who).perform (role who) operation := by
  simp only [perform, history, Function.update_self]

/-- The other ends see nothing but the depot after it. -/
theorem history_perform_other {other : κ} (differs : other ≠ who) :
    (ends.perform role (who, operation)).history other =
      { ends.history other with
        depot := ((ends.round who).perform (role who) ends.depot operation).2.2 } := by
  -- The round of another end is not updated.
  simp only [perform, history, Function.update_of_ne differs]
  rfl

end Turn

end Ends

end Round

end SentinelRounds
