import Mathlib.Data.List.Induction
import SentinelRounds.Round.Latch

/-! Whoever sleeps on a latch is woken by the next setting of it, however the steps interleave. -/

namespace SentinelRounds

namespace Waiter

/-- A waiter that nobody has woken since it last found the latch clear. -/
def Rests : Waiter → Prop
  | .dozing false | .asleep => True
  | _ => False

/-- What the next step of a poll ends it with, if it does: whether the wait is over. -/
def ended? (isSet : Bool) (waiter : Waiter) : Option Bool :=
  match waiter, waiter.advance isSet with
  | .gone, _ => none
  | _, .gone => some true
  | _, .asleep => some false
  | _, _ => none

/-- Nobody rests any more once a latch has been set. -/
theorem wake_not_rests (waiter : Waiter) : ¬ waiter.wake.Rests := by
  cases waiter <;> exact id

/-- While a latch is set, a step of a poll brings nobody to rest. -/
theorem Rests.of_advance {waiter : Waiter} (rests : (waiter.advance true).Rests) :
    waiter.Rests := by
  -- A waiter that is about to look sees the latch set, and does not come to rest.
  cases waiter with
  | dozing called =>
    cases called with
    | true => cases rests
    | false => trivial
  | asleep => trivial
  | fresh | looking | woken | gone => cases rests

/-- A poll ends with what the latch is, unless the latch has been set unnoticed. -/
theorem ready_of_ended {isSet ready : Bool} {waiter : Waiter}
    (noticed : isSet = true → ¬ waiter.Rests) (ended : waiter.ended? isSet = some ready) :
    ready = isSet := by
  -- Whoever ends a poll without looking rests, so the latch cannot have been set since.
  have clear (rests : waiter.Rests) : isSet = false :=
    Bool.not_eq_true _ ▸ fun same => noticed same rests
  cases waiter with
  | looking => cases isSet <;> cases ended; rfl
  | dozing called =>
    cases called <;> cases ended
    exact (clear trivial).symm
  | asleep =>
    cases ended
    exact (clear trivial).symm
  | fresh | woken | gone => cases ended

/-- A poll that ends before the wait is over leaves its waiter asleep. -/
theorem advance_of_ended {isSet : Bool} {waiter : Waiter}
    (ended : waiter.ended? isSet = some false) : waiter.advance isSet = .asleep := by
  -- A poll ends unfinished only where its waiter falls asleep.
  cases waiter with
  | looking => cases isSet <;> cases ended
  | dozing called => cases called <;> cases ended; rfl
  | asleep => rfl
  | fresh | woken | gone => cases ended

/-- A whole poll ends with what the latch is, unless the latch has been set unnoticed. -/
theorem advance_pending {isSet : Bool} {waiter : Waiter} (pending : waiter.isPending = true)
    (noticed : isSet = true → ¬ waiter.Rests) :
    ((waiter.advance isSet).advance isSet).advance isSet = if isSet then .gone else .asleep := by
  -- A new waiter looks and dozes off before it sleeps, and a sleeper goes straight on.
  cases waiter with
  | fresh | woken => cases isSet <;> rfl
  | asleep =>
    cases isSet with
    | false => rfl
    | true => exact absurd trivial (noticed rfl)
  | looking | dozing | gone => cases pending

end Waiter

namespace Latch

/-- What somebody does to a latch or to one of its waiters. -/
inductive Move
  | set
  | reset
  /-- Makes a waiter. -/
  | wait
  /-- Polls a waiter, with nobody acting in between. -/
  | poll (index : Nat)
  /-- Takes one step of a poll of a waiter. -/
  | advance (index : Nat)
  deriving DecidableEq, Repr

/-- Whether a move is a poll of a waiter, or a part of one. -/
def Move.Polls (index : Nat) : Move → Prop
  | .poll other | .advance other => other = index
  | .set | .reset | .wait => False

/-- The latch after a move. -/
def perform (latch : Latch) : Move → Latch
  | .set => latch.set
  | .reset => latch.reset
  | .wait => latch.wait
  | .poll index => (latch.poll index).2
  | .advance index => latch.advance index

/-- A new latch after some moves in order. -/
def after (moves : List Move) : Latch := moves.foldl perform {}

/-- What a move ends a poll of a waiter with, if it does: whether the wait is over. -/
def ends? (latch : Latch) (index : Nat) : Move → Option Bool
  | .poll other => if other = index then (latch.poll index).1.map Poll.ready else none
  | .advance other =>
    if other = index then latch.waiters[index]?.bind (Waiter.ended? latch.isSet) else none
  | .set | .reset | .wait => none

/-- Of some moves, the last one that sets or resets a latch sets it. -/
def LeavesSet (moves : List Move) : Prop :=
  ∃ front back, moves = front ++ .set :: back ∧ .reset ∉ back

/-- No waiter rests on a latch that is set. -/
def Noticed (latch : Latch) : Prop :=
  latch.isSet = true → ∀ waiter ∈ latch.waiters, ¬ waiter.Rests

/-- One more move is made on the latch that the others have left. -/
theorem after_concat (moves : List Move) (move : Move) :
    after (moves ++ [move]) = (after moves).perform move := by
  -- The moves are made from the first one on.
  rw [after, List.foldl_append]
  rfl

/-- A poll is three steps, unless none may begin. -/
theorem poll_snd (latch : Latch) (index : Nat) :
    (latch.poll index).2 = latch ∨
      (latch.poll index).2 = ((latch.advance index).advance index).advance index := by
  -- The poll does nothing for a waiter that has finished or is under way.
  unfold poll
  split
  · exact .inl rfl
  · exact .inr rfl

/-- A step of a poll takes its own waiter further, and no other. -/
theorem waiters_advance (latch : Latch) (index other : Nat) :
    (latch.advance index).waiters[other]? =
      if index = other then (latch.waiters[other]?).map (Waiter.advance latch.isSet)
      else latch.waiters[other]? := by
  -- One waiter is modified in place.
  rw [advance, List.getElem?_modify]
  split <;> simp

/-- What a step of a poll keeps, a poll keeps. -/
theorem poll_keeps {holds : Latch → Prop} {index : Nat} {latch : Latch} (initially : holds latch)
    (kept : ∀ latch, holds latch → holds (latch.advance index)) :
    holds (latch.poll index).2 := by
  -- A poll does nothing, or three steps that each keep it.
  rcases latch.poll_snd index with same | same
  · rw [same]
    exact initially
  · rw [same]
    exact kept _ (kept _ (kept _ initially))

/-- A step of a poll leaves no waiter resting on a latch that is set. -/
theorem Noticed.advance {latch : Latch} (noticed : latch.Noticed) (index : Nat) :
    (latch.advance index).Noticed := by
  -- A waiter of the new latch is the one that went on, or an old one.
  intro isSet waiter member rests
  obtain ⟨other, found⟩ := List.getElem?_of_mem member
  rw [waiters_advance] at found
  have isSet : latch.isSet = true := isSet
  split at found
  · -- The waiter that was taken further had rested before.
    obtain ⟨before, held, rfl⟩ := Option.map_eq_some_iff.mp found
    rw [isSet] at rests
    exact noticed isSet before (List.mem_of_getElem? held) rests.of_advance
  · exact noticed isSet waiter (List.mem_of_getElem? found) rests

/-- No move leaves a waiter resting on a latch that is set. -/
theorem Noticed.perform {latch : Latch} (noticed : latch.Noticed) (move : Move) :
    (latch.perform move).Noticed := by
  -- Setting wakes all, resetting leaves nothing to notice, and a new waiter is awake.
  cases move with
  | set =>
    intro _ waiter member
    obtain ⟨before, -, rfl⟩ := List.mem_map.mp member
    exact before.wake_not_rests
  | reset =>
    intro isSet
    cases isSet
  | wait =>
    intro isSet waiter member
    rcases List.mem_append.mp member with member | member
    · exact noticed isSet waiter member
    · cases List.mem_singleton.mp member
      exact id
  | poll index => exact poll_keeps noticed fun _ still => still.advance index
  | advance index => exact noticed.advance index

/-- No waiter ever rests on a latch that is set. -/
theorem noticed_after (moves : List Move) : (after moves).Noticed := by
  -- The moves are followed from the first one.
  induction moves using List.reverseRecOn with
  | nil => exact fun isSet => by cases isSet
  | append_singleton moves move ih =>
    rw [after_concat]
    exact ih.perform move

/-- Polls leave it alone whether a latch is set. -/
theorem isSet_perform (latch : Latch) (move : Move) :
    (latch.perform move).isSet =
      match move with
      | .set => true
      | .reset => false
      | .wait | .poll _ | .advance _ => latch.isSet := by
  -- Only a poll is more than a single step.
  cases move with
  | poll index => exact @poll_keeps (fun other => other.isSet = latch.isSet) _ _ rfl fun _ => id
  | set | reset | wait | advance => rfl

/-- One more move leaves a latch set if it sets it, or if the others do and it does not reset it. -/
theorem leavesSet_concat_iff (moves : List Move) (move : Move) :
    LeavesSet (moves ++ [move]) ↔ move = .set ∨ (move ≠ .reset ∧ LeavesSet moves) := by
  -- The last setting is the new move, or it stands among the moves before.
  constructor
  · rintro ⟨front, back, same, spared⟩
    rcases List.eq_nil_or_concat back with rfl | ⟨others, last, rfl⟩
    · exact .inl (List.singleton_inj.mp (List.append_inj' same rfl).2)
    · -- The setting is one of the other moves, and the last move comes behind it.
      rw [List.concat_eq_append, ← List.cons_append, ← List.append_assoc] at same
      obtain ⟨rest, ends⟩ := List.append_inj' same rfl
      cases ends
      refine .inr ⟨?_, front, others, rest, fun member => spared (by simp [member])⟩
      rintro rfl
      exact spared (by simp)
  · rintro (rfl | ⟨spares, front, back, rfl, spared⟩)
    · exact ⟨moves, [], rfl, List.not_mem_nil⟩
    · refine ⟨front, back ++ [move], by simp, ?_⟩
      simpa using ⟨spared, spares.symm⟩

/-- A latch is set if its last setting comes after its last reset. -/
theorem isSet_after_iff (moves : List Move) : (after moves).isSet = true ↔ LeavesSet moves := by
  -- By induction on the moves, from the last one.
  induction moves using List.reverseRecOn with
  | nil =>
    refine iff_of_false Bool.false_ne_true ?_
    rintro ⟨front, back, same, -⟩
    exact absurd same (by simp)
  | append_singleton moves move ih =>
    rw [after_concat, isSet_perform, leavesSet_concat_iff, ← ih]
    cases move <;> simp

/-- A move of somebody else does nothing to a waiter, unless it sets the latch. -/
theorem waiters_perform {latch : Latch} {index : Nat} {waiter : Waiter} {move : Move}
    (found : latch.waiters[index]? = some waiter) (foreign : ¬ move.Polls index) :
    (latch.perform move).waiters[index]? =
      some (if move = .set then waiter.wake else waiter) := by
  -- A step of another waiter changes another place of the list.
  have still {other : Nat} (differs : other ≠ index) (latch : Latch)
      (found : latch.waiters[index]? = some waiter) :
      (latch.advance other).waiters[index]? = some waiter := by
    rw [waiters_advance, if_neg differs, found]
  cases move with
  | set => simp [perform, set, found]
  | reset => exact found
  | wait =>
    have within := (List.getElem?_eq_some_iff.mp found).1
    simp only [perform, wait, List.getElem?_append_left within, found]
    rfl
  | poll other => exact poll_keeps found (still foreign)
  | advance other => exact still foreign latch found

/-- A sleeper is woken by the first setting, and stays as it is through all else. -/
theorem waiters_of_asleep {front back : List Move} {index : Nat}
    (asleep : (after front).waiters[index]? = some .asleep)
    (foreign : ∀ move ∈ back, ¬ move.Polls index) :
    (after (front ++ back)).waiters[index]? =
      some (if .set ∈ back then .woken else .asleep) := by
  -- By induction on the moves that follow, from the last one.
  induction back using List.reverseRecOn with
  | nil =>
    rw [List.append_nil]
    exact asleep
  | append_singleton back move ih =>
    have rest := ih fun other member => foreign other (by simp [member])
    rw [← List.append_assoc, after_concat, waiters_perform rest (foreign move (by simp))]
    -- Whoever has been woken once stays so.
    by_cases sets : move = .set
    · have now : .set ∈ back ++ [move] := by simp [sets]
      rw [if_pos sets, if_pos now]
      split <;> rfl
    · simp [sets, Ne.symm sets]

/-- How a poll ends that may begin and is not disturbed. -/
theorem poll_fst {latch : Latch} {index : Nat} {waiter : Waiter} (noticed : latch.Noticed)
    (found : latch.waiters[index]? = some waiter) (pending : waiter.isPending = true) :
    (latch.poll index).1 = some ⟨waiter = .woken, latch.isSet⟩ ∧
      (latch.poll index).2.waiters[index]? = some (if latch.isSet then .gone else .asleep) := by
  -- The waiter is found again after each of the three steps.
  have rests (isSet : latch.isSet = true) : ¬ waiter.Rests :=
    noticed isSet waiter (List.mem_of_getElem? found)
  have polled : (((latch.advance index).advance index).advance index).waiters[index]? =
      some (if latch.isSet then .gone else .asleep) := by
    simp only [waiters_advance, if_true, found, Option.map_some]
    exact congrArg some (Waiter.advance_pending pending rests)
  have mayBegin : (latch.waiters[index]?).filter Waiter.isPending = some waiter := by
    rw [found, Option.filter_some, if_pos pending]
  rw [poll, mayBegin]
  refine ⟨congrArg (fun ready => some (Poll.mk (waiter = .woken) ready)) ?_, polled⟩
  rw [polled]
  cases latch.isSet <;> rfl

/-- A move that ends a poll ends it with what the latch is. -/
theorem ready_of_ends {latch : Latch} {index : Nat} {move : Move} {ready : Bool}
    (noticed : latch.Noticed) (ends : latch.ends? index move = some ready) :
    ready = latch.isSet := by
  -- A whole poll and a last step of one both answer what the latch is at that time.
  cases move with
  | poll other =>
    simp only [ends?] at ends
    split at ends
    · obtain ⟨answer, polled, rfl⟩ := Option.map_eq_some_iff.mp ends
      cases mayBegin : (latch.waiters[index]?).filter Waiter.isPending with
      | none =>
        -- A poll that may not begin does not end.
        simp only [poll, mayBegin] at polled
        cases polled
      | some waiter =>
        obtain ⟨found, pending⟩ := Option.filter_eq_some_iff.mp mayBegin
        rw [(poll_fst noticed found pending).1] at polled
        cases polled
        rfl
    · cases ends
  | advance other =>
    simp only [ends?] at ends
    split at ends
    · -- A single step that ends a poll has just looked at the latch.
      obtain ⟨waiter, found, ended⟩ := Option.bind_eq_some_iff.mp ends
      exact Waiter.ready_of_ended (fun isSet => noticed isSet waiter (List.mem_of_getElem? found))
        ended
    · cases ends
  | set | reset | wait => cases ends

/-- A move that ends a poll before the wait is over leaves the waiter asleep. -/
theorem asleep_of_ends {latch : Latch} {index : Nat} {move : Move} (noticed : latch.Noticed)
    (ends : latch.ends? index move = some false) :
    (latch.perform move).waiters[index]? = some .asleep := by
  -- The latch is not set, so the waiter has gone to sleep.
  have clear := ready_of_ends noticed ends
  cases move with
  | poll other =>
    simp only [ends?] at ends
    split at ends
    · rename_i same
      subst same
      obtain ⟨answer, polled, -⟩ := Option.map_eq_some_iff.mp ends
      cases mayBegin : (latch.waiters[other]?).filter Waiter.isPending with
      | none =>
        -- A poll that may not begin does not end.
        simp only [poll, mayBegin] at polled
        cases polled
      | some waiter =>
        -- A whole poll leaves its waiter asleep if the latch is not set.
        obtain ⟨found, pending⟩ := Option.filter_eq_some_iff.mp mayBegin
        rw [perform, (poll_fst noticed found pending).2, ← clear]
        rfl
    · cases ends
  | advance other =>
    simp only [ends?] at ends
    split at ends
    · rename_i same
      subst same
      -- A single step ends a poll by sending its waiter to sleep.
      obtain ⟨waiter, found, ended⟩ := Option.bind_eq_some_iff.mp ends
      rw [perform, waiters_advance, if_pos rfl, found, Option.map_some,
        Waiter.advance_of_ended ended]
    · cases ends
  | set | reset | wait => cases ends

/--
No setting of a latch is lost on a waiter.

Whatever has been done to a new latch and to its waiters, in whole polls or step by step: a poll that
ends, ends the wait exactly if the latch is set at that time, and a poll that may begin and is not
disturbed does end; a waiter whose last poll has left it waiting has been woken since exactly if the
latch has been set since; and nobody is asleep while the latch is set.
-/
theorem wakes_sleepers (moves : List Move) (index : Nat) :
    let latch := after moves
    (latch.isSet = true ↔ LeavesSet moves) ∧
    (∀ move ready, latch.ends? index move = some ready → (ready = true ↔ LeavesSet moves)) ∧
    (∀ waiter, latch.waiters[index]? = some waiter → waiter.isPending = true →
      ∃ ready, latch.ends? index (.poll index) = some ready) ∧
    (∀ front move back, moves = front ++ move :: back →
      (after front).ends? index move = some false → (∀ other ∈ back, ¬ other.Polls index) →
      latch.waiters[index]? = some (if .set ∈ back then .woken else .asleep)) ∧
    (latch.waiters[index]? = some .asleep → latch.isSet = false) := by
  -- That no setting goes unnoticed is kept by every move, and the rest follows from it.
  intro latch
  have noticed : latch.Noticed := noticed_after moves
  refine ⟨isSet_after_iff moves, ?_, ?_, ?_, ?_⟩
  · intro move ready ends
    rw [ready_of_ends noticed ends]
    exact isSet_after_iff moves
  · intro waiter found pending
    rw [ends?, if_pos rfl, (poll_fst noticed found pending).1]
    exact ⟨_, rfl⟩
  · intro front move back same ends foreign
    have asleep := asleep_of_ends (noticed_after front) ends
    rw [← after_concat] at asleep
    have woken := waiters_of_asleep asleep foreign
    rw [List.append_assoc, List.singleton_append, ← same] at woken
    exact woken
  · intro asleep
    rw [← Bool.not_eq_true]
    exact fun isSet => noticed isSet _ (List.mem_of_getElem? asleep) trivial

/--
Three waiters: one is polled while the latch is set and has finished, one fell asleep after the latch
was reset and has been woken by another setting, and one fell asleep after that and sleeps on.
-/
theorem wakes_sleepers_each :
    let first : List Move := [.wait, .wait, .wait, .set]
    let second : List Move := first ++ [.poll 0, .reset]
    let third : List Move := second ++ [.poll 1, .set, .reset]
    let latch := after (third ++ [.poll 2])
    latch.waiters = [.gone, .woken, .asleep] ∧
      (after first).ends? 0 (.poll 0) = some true ∧ LeavesSet first ∧
      (after second).ends? 1 (.poll 1) = some false ∧ ¬ LeavesSet second ∧
      latch.waiters[1]? = some .woken ∧ latch.waiters[2]? = some .asleep ∧
      latch.isSet = false := by
  -- How each of the three polls ends is evaluated.
  intro first second third latch
  have finishes : (after first).ends? 0 (.poll 0) = some true := by decide
  have waits : (after second).ends? 1 (.poll 1) = some false := by decide
  have sleeps : (after third).ends? 2 (.poll 2) = some false := by decide
  -- The first poll finds the latch set, and the second one does not.
  have set := (((wakes_sleepers first 0).2.1 _ _ finishes).mp rfl)
  have unset : ¬ LeavesSet second := fun set =>
    Bool.false_ne_true (((wakes_sleepers second 1).2.1 _ _ waits).mpr set)
  -- After the second one comes a setting, and after the third one nothing.
  have woken := (wakes_sleepers (third ++ [.poll 2]) 1).2.2.2.1 second (.poll 1)
    [.set, .reset, .poll 2] rfl waits (by simp [Move.Polls])
  obtain ⟨_, _, _, rests, clear⟩ := wakes_sleepers (third ++ [.poll 2]) 2
  have asleep := rests third (.poll 2) [] rfl sleeps nofun
  exact ⟨by decide, finishes, set, waits, unset, woken, asleep, clear asleep⟩

/-- A waiter that the setting meets between looking and falling asleep looks again. -/
example :
    (after [.wait, .advance 0, .advance 0, .set, .advance 0, .advance 0]).waiters = [.gone] := by
  decide

end Latch

end SentinelRounds
