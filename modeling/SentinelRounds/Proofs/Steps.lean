import Mathlib.Logic.Relation

/-! Runs of a machine whose steps are a partial function: what holds all along, and that they end. -/

namespace SentinelRounds

variable {σ : Type}

/-- A state is reached from another by some number of steps. -/
def Reaches (step : σ → Option σ) : σ → σ → Prop :=
  Relation.ReflTransGen fun before after => step before = some after

namespace Reaches

variable {step : σ → Option σ}

/-- No step reaches the state itself. -/
theorem refl (state : σ) : Reaches step state state := Relation.ReflTransGen.refl

/-- One step, and then a run from the state after it. -/
theorem head {first second last : σ} (moved : step first = some second)
    (rest : Reaches step second last) : Reaches step first last :=
  Relation.ReflTransGen.head moved rest

/-- Two runs, one after the other. -/
theorem trans {first second last : σ} (front : Reaches step first second)
    (rest : Reaches step second last) : Reaches step first last :=
  Relation.ReflTransGen.trans front rest

/-- What every step keeps holds all along a run. -/
theorem invariant {holds : σ → Prop}
    (kept : ∀ before after, holds before → step before = some after → holds after)
    {first last : σ} (reached : Reaches step first last) (initially : holds first) :
    holds last := by
  -- The run is followed from its first state.
  induction reached with
  | refl => exact initially
  | tail _ moved ih => exact kept _ _ ih moved

/-- A run comes to an end if every step lowers a rank, and then what every step keeps still holds. -/
theorem ends {holds : σ → Prop} (rank : σ → Nat)
    (kept : ∀ before after, holds before → step before = some after →
      holds after ∧ rank after < rank before)
    {first : σ} (initially : holds first) :
    ∃ last, Reaches step first last ∧ step last = none ∧ holds last := by
  -- The induction is on the rank of the state that the run starts from.
  induction count : rank first using Nat.strongRecOn generalizing first with
  | ind count ih =>
    cases moved : step first with
    | none => exact ⟨first, refl first, moved, initially⟩
    | some second =>
      obtain ⟨still, lower⟩ := kept first second initially moved
      obtain ⟨last, reached, stuck, holds⟩ := ih (rank second) (by omega) still rfl
      exact ⟨last, head moved reached, stuck, holds⟩

/-- Every state that is reached comes before the end of the run. -/
theorem of_ended {first after last : σ} (reached : Reaches step first last)
    (ended : step last = none) (met : Reaches step first after) : Reaches step after last := by
  -- The run to the state in question is followed step by step, and the other one with it.
  induction met with
  | refl => exact reached
  | tail _ moved ih =>
    rcases Relation.ReflTransGen.cases_head ih with rfl | ⟨second, next, rest⟩
    · rw [ended] at moved
      cases moved
    · rw [moved] at next
      cases next
      exact rest

/-- A run has but one end. -/
theorem eq_of_ended {first last other : σ} (reached : Reaches step first last)
    (ended : step last = none) (met : Reaches step first other) (halted : step other = none) :
    other = last := by
  -- Nothing is reached from an end but itself.
  rcases Relation.ReflTransGen.cases_head (reached.of_ended ended met) with same | ⟨_, next, _⟩
  · exact same
  · rw [halted] at next
    cases next

/-- A run of one machine is a run of another that takes the same steps between related states. -/
theorem simulated {τ : Type} {other : τ → Option τ} (image : σ → τ)
    (same : ∀ before after, step before = some after → other (image before) = some (image after))
    {first last : σ} (reached : Reaches step first last) :
    Reaches other (image first) (image last) := by
  -- Each step is taken along.
  induction reached with
  | refl => exact refl _
  | tail _ moved ih => exact Relation.ReflTransGen.tail ih (same _ _ moved)

end Reaches

/-- Whether a run ends within so many steps and a test holds of all its states. -/
def holdsAlong (step : σ → Option σ) (test : σ → Bool) : (fuel : Nat) → σ → Bool
  | 0, _ => false
  | fuel + 1, state =>
    test state && match step state with
      | none => true
      | some after => holdsAlong step test fuel after

/-- A test that holds along a run holds of every state that is reached. -/
theorem Reaches.of_holdsAlong {step : σ → Option σ} {test : σ → Bool} {fuel : Nat} {first last : σ}
    (holds : holdsAlong step test fuel first = true) (reached : Reaches step first last) :
    test last = true := by
  -- The fuel has sufficed for the whole run, so it suffices for a part of it.
  induction reached using Relation.ReflTransGen.head_induction_on generalizing fuel with
  | refl =>
    cases fuel with
    | zero => cases holds
    | succ fuel => exact (Bool.and_eq_true_iff.mp holds).1
  | head moved _ ih =>
    cases fuel with
    | zero => cases holds
    | succ fuel =>
      have rest := (Bool.and_eq_true_iff.mp holds).2
      rw [moved] at rest
      exact ih rest

end SentinelRounds
