import Mathlib.Data.List.TakeWhile
import SentinelRounds.Proofs.Frame.Framing

/-! A search backward agrees with one forward on a written frame and on each beginning of it. -/

namespace SentinelRounds

namespace Scanner

/-- A fresh backward scanner. -/
def backward (runLength : Nat) : Scanner := { ofRunLength runLength with direction := .backward }

/-- The run at the start of some bytes is as long as they repeat one byte. -/
theorem leadingRun_replicate (b : UInt8) (count : Nat) {rest : Bytes}
    (ends : rest.head? ≠ some b) : leadingRun b (List.replicate count b ++ rest) = count := by
  -- The run takes in the repeated bytes, and then it has to end.
  have repeated : ∀ c ∈ List.replicate count b, (c == b) = true := by
    intro c member
    exact beq_iff_eq.mpr (List.eq_of_mem_replicate member)
  rw [leadingRun, List.takeWhile_append_of_pos repeated, List.length_append, List.length_replicate]
  -- The byte after them is another, if there is one.
  cases rest with
  | nil => rfl
  | cons c rest =>
    have differs : c ≠ b := fun same => ends (congrArg some same)
    simp [differs]

/-- The run at the start of some bytes repeats the byte that it is a run of. -/
theorem replicate_leadingRun (b : UInt8) (bytes : Bytes) :
    List.replicate (leadingRun b bytes) b <+: bytes := by
  -- What is taken are the first bytes, and each of them is the same.
  have taken : bytes.takeWhile (· == b) = List.replicate (leadingRun b bytes) b :=
    List.eq_replicate_iff.mpr ⟨rfl, fun c member =>
      beq_iff_eq.mp (List.mem_takeWhile_imp (p := (· == b)) member)⟩
  rw [← taken]
  exact List.takeWhile_prefix _

/-- A backward search looks at the closing value a buffer ends in, and at the whole run of it. -/
theorem scan_backward (runLength : Nat) (buffer : Bytes) :
    ((backward runLength).scan buffer).1 =
      match buffer.getLast?.bind Markup.closing? with
      | none => none
      | some kind =>
        let run := leadingRun kind.byte buffer.reverse
        if run < max runLength 1 then none
        else some ⟨kind, buffer.length - run, buffer.length⟩ := by
  -- With nothing seen before, the whole buffer is looked at from its end.
  simp only [scan, backward, scanBackward, ofRunLength, Nat.sub_zero, List.take_length,
    List.head?_reverse]
  cases buffer.getLast? with
  | none => rfl
  | some last =>
    simp only [Option.bind_some]
    cases found : Markup.closing? last with
    | none => rfl
    | some kind =>
      -- The value found is that of the last byte.
      obtain ⟨_, rfl⟩ := Markup.closing?_eq_some.mp found
      simp only
      split <;> rfl

/-- A backward search takes in the whole run that a buffer ends in, if it is long enough. -/
theorem scan_backward_run {runLength count : Nat} (positive : 1 ≤ runLength)
    (long : runLength ≤ count) {kind : Markup} (closes : kind.closes = true) {front : Bytes}
    (ends : front.getLast? ≠ some kind.byte) :
    ((backward runLength).scan (front ++ List.replicate count kind.byte)).1 =
      some ⟨kind, front.length, front.length + count⟩ := by
  -- The last byte closes something, and the run of it is as long as it is repeated.
  have closing := Markup.closing?_eq_some.mpr ⟨closes, rfl⟩
  -- From the end the buffer is the run, and then the other bytes.
  have last : (front ++ List.replicate count kind.byte).getLast? = some kind.byte := by
    obtain ⟨fewer, rfl⟩ : ∃ fewer, count = fewer + 1 := ⟨count - 1, by omega⟩
    rw [List.replicate_succ', ← List.append_assoc, List.getLast?_concat]
  have run : leadingRun kind.byte (front ++ List.replicate count kind.byte).reverse = count := by
    rw [List.reverse_append, List.reverse_replicate]
    exact leadingRun_replicate _ _ (by rw [List.head?_reverse]; exact ends)
  have enough : ¬ count < max runLength 1 := by omega
  rw [scan_backward, last, Option.bind_some, closing]
  simp only [run, if_neg enough, List.length_append, List.length_replicate, Nat.add_sub_cancel]

/-- A backward search finds nothing in a buffer that ends in no full run. -/
theorem scan_backward_none {runLength : Nat} (positive : 1 ≤ runLength) {buffer : Bytes}
    (without : ∀ kind : Markup, kind.closes = true →
      ¬ List.replicate runLength kind.byte <:+ buffer) :
    ((backward runLength).scan buffer).1 = none := by
  -- The search can fail at the last byte, or at the length of the run.
  rw [scan_backward]
  split
  · rfl
  · -- The run at the end is one of a closing value, so it is not a full one.
    rename_i kind found
    obtain ⟨last, _, closing⟩ := Option.bind_eq_some_iff.mp found
    obtain ⟨closes, rfl⟩ := Markup.closing?_eq_some.mp closing
    have short : leadingRun kind.byte buffer.reverse < max runLength 1 := by
      refine Nat.lt_of_not_le fun long => without kind closes ?_
      have row := replicate_leadingRun kind.byte buffer.reverse
      rw [← List.reverse_replicate, List.reverse_prefix] at row
      obtain ⟨more, count⟩ : ∃ more, leadingRun kind.byte buffer.reverse = more + runLength :=
        ⟨leadingRun kind.byte buffer.reverse - runLength, by omega⟩
      rw [count, ← List.replicate_append_replicate] at row
      exact (List.suffix_append _ _).trans row
    simp only [if_pos short]

end Scanner

namespace Writer

/-- Both searches find a frame's terminator at its end, and nothing in a shorter beginning of it. -/
theorem scan_beginning {writer : Writer} (regular : 2 ≤ writer.runLength) (content : Bytes)
    {marker : Markup} (closes : marker.closes = true) {piece : Bytes}
    (beginning : piece <+: writer.sealed content marker) :
    let frame := writer.sealed content marker
    let result := if piece = frame then
      some ⟨marker, frame.length - writer.runLength, frame.length⟩ else none
    ((Scanner.ofRunLength writer.runLength).scan piece).1 = result ∧
      ((Scanner.backward writer.runLength).scan piece).1 = result := by
  -- A beginning is the whole frame, or it ends before the terminator does.
  intro frame result
  have length : max writer.runLength 1 = writer.runLength := by omega
  have first := writer.firstRun?_sealed regular content closes []
  rw [List.append_nil] at first
  by_cases whole : piece = frame
  · -- The terminator stands behind the escaped content, which ends in none of its bytes.
    have answer : result = some ⟨marker, frame.length - writer.runLength, frame.length⟩ :=
      if_pos whole
    rw [answer, whole]
    constructor
    · rw [Scanner.scan_ofRunLength, length, first]
      rfl
    · have found := Scanner.scan_backward_run (by omega) (Nat.le_refl writer.runLength) closes
        (Escape.getLast?_encode writer.runLength content closes)
      have size : frame.length =
          (Escape.encode writer.runLength content).length + writer.runLength := by
        simp only [frame, sealed, List.length_append, List.length_replicate]
      rw [size, Nat.add_sub_cancel]
      exact found
  · -- A shorter beginning ends before the only run of the frame does.
    have answer : result = none := if_neg whole
    have shape := List.prefix_iff_eq_take.mp beginning
    have shorter : piece.length < frame.length := by
      refine Nat.lt_of_le_of_ne beginning.length_le fun same => whole ?_
      rw [shape, same, List.take_length]
    have nothing : Scanner.firstRun? writer.runLength piece = none := by
      rw [shape, Scanner.firstRun?_take (by omega), first]
      exact if_neg (by simpa using shorter)
    rw [answer]
    constructor
    · rw [Scanner.scan_ofRunLength, length, nothing]
      rfl
    · refine Scanner.scan_backward_none (by omega) fun kind closing ends => ?_
      have quiet := (Scanner.firstRun?_eq_none_iff (by omega)).mp nothing
      have absent := (Run.quiet_start_iff (by omega) piece).mp quiet piece.length kind closing
      rw [List.take_length] at absent
      exact absent ends

/--
How many terminators stand directly together at the end of some frames, given from the last one on:
an empty frame puts nothing between its own terminator and the one before it, and two of the same
value make one run.
-/
def adjoining : List Attempt → Nat
  | [] => 0
  | [_] => 1
  | last :: before :: rest =>
    if last.content = [] ∧ before.marker = last.marker then adjoining (before :: rest) + 1 else 1

/-- Frames end in the terminators that stand together there, with none of their bytes before. -/
theorem ends_adjoining {writer : Writer} (regular : 2 ≤ writer.runLength) {last : Attempt}
    {rest : List Attempt} (closing : ∀ attempt ∈ last :: rest, attempt.marker.closes = true) :
    0 < adjoining (last :: rest) ∧ ∃ front,
      ((last :: rest).reverse.flatMap fun attempt =>
        writer.sealed attempt.content attempt.marker) =
          front ++ List.replicate (adjoining (last :: rest) * writer.runLength) last.marker.byte ∧
      front.getLast? ≠ some last.marker.byte := by
  -- The frames are taken from the last one on.
  induction rest generalizing last with
  | nil =>
    have closes := closing last List.mem_cons_self
    refine ⟨Nat.zero_lt_one, _, ?_, Escape.getLast?_encode writer.runLength last.content closes⟩
    simp [adjoining, sealed]
  | cons before rest ih =>
    have closes := closing last List.mem_cons_self
    obtain ⟨some, front, shape, ends⟩ :=
      ih fun attempt member => closing attempt (List.mem_cons_of_mem _ member)
    have frames : ((last :: before :: rest).reverse.flatMap fun attempt =>
        writer.sealed attempt.content attempt.marker) =
        (front ++ List.replicate (adjoining (before :: rest) * writer.runLength)
          before.marker.byte) ++ writer.sealed last.content last.marker := by
      rw [← shape]
      simp
    rw [frames, adjoining]
    split
    · -- The terminator of an empty frame goes on with a run of its own value.
      rename_i joined
      obtain ⟨empty, same⟩ := joined
      refine ⟨Nat.succ_pos _, front, ?_, by rw [← same]; exact ends⟩
      rw [empty, sealed, same, List.append_assoc, Nat.succ_mul, ← List.replicate_append_replicate]
      rfl
    · -- Otherwise something else stands before it.
      rename_i apart
      refine ⟨Nat.zero_lt_one, _, by rw [Nat.one_mul, sealed, ← List.append_assoc], ?_⟩
      rw [List.getLast?_append]
      cases final : (Escape.encode writer.runLength last.content).getLast? with
      | some b =>
        have other := Escape.getLast?_encode writer.runLength last.content closes
        rw [final] at other
        exact other
      | none =>
        -- The last frame is empty, so the terminator before it is one of the other value.
        have empty : last.content = [] := by
          have size := Escape.length_le_length_encode writer.runLength last.content
          rw [List.getLast?_eq_none_iff.mp final] at size
          exact List.length_eq_zero_iff.mp (Nat.le_zero.mp size)
        have differs : before.marker.byte ≠ last.marker.byte :=
          fun same => apart ⟨empty, Markup.byte_injective same⟩
        obtain ⟨fewer, count⟩ : ∃ fewer,
            adjoining (before :: rest) * writer.runLength = fewer + 1 := by
          have long := Nat.mul_pos some (Nat.lt_of_lt_of_le Nat.zero_lt_two regular)
          exact ⟨_, (Nat.succ_pred_eq_of_pos long).symm⟩
        rw [count, List.replicate_succ', ← List.append_assoc, List.getLast?_concat]
        exact fun same => differs (Option.some.inj same)

/--
On every beginning of a written frame, a fresh search backward and a fresh one forward give the same
answer: the frame's terminator if it is the whole frame, and nothing before. On the frames that any
calls have written, a search backward finds the last one's terminator, and with it those that stand
directly before it; it is alone unless the last frame is empty and the one before it closed alike.
-/
theorem backward_agrees {writer : Writer} (regular : 2 ≤ writer.runLength) :
    (∀ (output content bytes : Bytes) (marker : Markup) (added : Nat),
      writer.write output content marker = .ok (output ++ bytes, added) →
      ∀ piece, piece <+: bytes →
        let result := if piece = bytes then
          some ⟨marker, bytes.length - writer.runLength, bytes.length⟩ else none
        ((Scanner.ofRunLength writer.runLength).scan piece).1 = result ∧
          ((Scanner.backward writer.runLength).scan piece).1 = result) ∧
    ∀ (attempts : List Attempt) (front : List Attempt) (last : Attempt),
      let made := writer.attemptAll [] attempts
      succeeded attempts made.1 = front ++ [last] →
        let joined := adjoining (last :: front.reverse)
        ((Scanner.backward writer.runLength).scan made.2).1 =
          some ⟨last.marker, made.2.length - joined * writer.runLength, made.2.length⟩ ∧
        ((last.content = [] → ∀ before ∈ front.getLast?, before.marker ≠ last.marker) →
          joined = 1) := by
  -- One frame is a matter of its beginnings, several of how they join.
  refine ⟨?_, ?_⟩
  · -- What a write adds is one frame.
    intro output content bytes marker added written piece beginning
    obtain ⟨closes, _, same, _⟩ := write_eq_ok written
    obtain rfl := List.append_cancel_left same
    exact scan_beginning regular content closes beginning
  · intro attempts front last made kept joined
    -- What the calls have written are the frames of the successful ones.
    have closing := closes_of_succeeded regular [] attempts
    have written : made.2 = (last :: front.reverse).reverse.flatMap fun attempt =>
        writer.sealed attempt.content attempt.marker := by
      have added := output_attemptAll regular [] attempts
      rw [List.nil_append] at added
      rw [List.reverse_cons, List.reverse_reverse, ← kept]
      exact added
    have closed : ∀ attempt ∈ last :: front.reverse, attempt.marker.closes = true := by
      intro attempt member
      refine closing attempt ?_
      rw [show succeeded attempts (writer.attemptAll [] attempts).1 = front ++ [last] from kept]
      simpa [or_comm] using member
    obtain ⟨some, before, shape, ends⟩ := ends_adjoining regular closed
    rw [← written] at shape
    have long : writer.runLength ≤ joined * writer.runLength := Nat.le_mul_of_pos_left _ some
    have found := Scanner.scan_backward_run (by omega) long (closed last List.mem_cons_self) ends
    refine ⟨?_, ?_⟩
    · rw [shape, List.length_append, List.length_replicate, Nat.add_sub_cancel]
      exact found
    · -- Only the frame before the last one can stand in the way.
      intro apart
      cases others : front.reverse with
      | nil => simp only [joined, others, adjoining]
      | cons other rest =>
        have here : front.getLast? = Option.some other := by
          rw [← List.head?_reverse, others]
          rfl
        have differs : ¬ (last.content = [] ∧ other.marker = last.marker) :=
          fun both => apart both.1 other here both.2
        simp only [joined, others, adjoining, if_neg differs]

/-- Two frames with content and an empty one behind them that is closed by the other value. -/
theorem backward_agrees_apart :
    let writer : Writer := ⟨2, 100⟩
    let attempts : List Attempt := [⟨[0x17], .block⟩, ⟨[1], .final⟩, ⟨[], .block⟩]
    let made := writer.attemptAll [] attempts
    let front : List Attempt := [⟨[0x17], .block⟩, ⟨[1], .final⟩]
    2 ≤ writer.runLength ∧ succeeded attempts made.1 = front ++ [⟨[], .block⟩] ∧
      ((Scanner.backward 2).scan made.2).1 =
        some ⟨.block, made.2.length - 1 * 2, made.2.length⟩ := by
  -- The calls are made here, and the theorem says how their frames join.
  intro writer attempts made front
  have kept : succeeded attempts made.1 = front ++ [⟨[], .block⟩] := by decide
  exact ⟨by decide, kept, ((backward_agrees (by decide)).2 attempts _ _ kept).1⟩

/-- Two empty frames that are closed alike are one run, which a search backward takes in whole. -/
theorem backward_joins :
    let writer : Writer := ⟨2, 100⟩
    let made := writer.attemptAll [] [⟨[], .block⟩, ⟨[], .block⟩]
    let found := ((Scanner.backward 2).scan made.2).1
    made = ([.ok 2, .ok 2], [0x17, 0x17, 0x17, 0x17]) ∧ found = some ⟨.block, 0, 4⟩ ∧
      found ≠ some ⟨.block, made.2.length - writer.runLength, made.2.length⟩ := by
  decide

end Writer

end SentinelRounds
