import Mathlib.Order.Bounds.Defs
import SentinelRounds.Proofs.Frame.Escape
import SentinelRounds.Proofs.Text.Utf8

/-! Which received frames are accepted: the escaped forms of content, and no others. -/

namespace SentinelRounds

namespace Escape

/--
Content with an escape after each point where a limit of identical closing bytes has been copied in
a row; `since` is what has been copied since the last inserted escape.
-/
def spaced (limit : Nat) (since : Bytes) : Bytes → Bytes
  -- The bytes themselves are looked at, and no count is carried along.
  | [] => []
  | b :: rest =>
    if (Scanner.runAt? limit (since ++ [b])).isSome then
      b :: Markup.escape.byte :: spaced limit [] rest
    else b :: spaced limit (since ++ [b]) rest

/-- After a piece without a full limit, a byte completes one exactly if its run has that length. -/
theorem isSome_runAt?_iff {limit : Nat} (positive : 0 < limit) {since : Bytes}
    (quiet : Run.start.Quiet limit since) (b : UInt8) :
    (Scanner.runAt? limit (since ++ [b])).isSome ↔
      ((Run.start.pushAll since).push b).length = limit := by
  -- A byte that completes a limit is judged by the run it leaves.
  have pushed : Run.start.pushAll (since ++ [b]) = (Run.start.pushAll since).push b := by
    rw [Run.pushAll_append, Run.pushAll_cons, Run.pushAll_nil]
  rw [← pushed, Option.isSome_iff_exists]
  constructor
  · -- The piece before the byte has no full limit, so the run is no longer than that.
    rintro ⟨kind, ends⟩
    obtain ⟨closes, suffix⟩ := (Scanner.runAt?_eq_some_iff positive).mp ends
    have closing := Markup.closing?_eq_some.mpr ⟨closes, rfl⟩
    have long := ((Run.le_length_pushAll_iff closing _ positive).mpr suffix).1
    have short := Run.length_pushAll_lt positive quiet
    have step := Run.length_push_le (Run.start.pushAll since) b
    rw [pushed] at long ⊢
    omega
  · -- A run of that length is a run of the byte itself.
    intro full
    rw [pushed] at full
    cases closing : Markup.closing? b with
    | none =>
      rw [Run.length_push_eq_zero closing] at full
      omega
    | some kind =>
      obtain ⟨closes, rfl⟩ := Markup.closing?_eq_some.mp closing
      exact ⟨kind, (Scanner.runAt?_eq_some_iff positive).mpr
        ⟨closes, Run.suffix_of_full positive closes full⟩⟩

/-- Copying with a count of the run puts its escapes where the copied bytes ask for them. -/
theorem insert_eq_spaced {limit : Nat} (positive : 0 < limit) {since : Bytes}
    (quiet : Run.start.Quiet limit since) (content : Bytes) :
    insert limit (Run.start.pushAll since) content = spaced limit since content := by
  -- The run that is counted is the one that the bytes since the last escape end in.
  induction content generalizing since with
  | nil => rfl
  | cons b rest ih =>
    have completes := isSome_runAt?_iff positive quiet b
    rw [insert, spaced]
    by_cases full : ((Run.start.pushAll since).push b).length = limit
    · have fresh := @ih [] trivial
      rw [if_pos full, if_pos (completes.mpr full), ← fresh]
      rfl
    · have onward : Run.start.Quiet limit (since ++ [b]) :=
        Run.quiet_append.mpr ⟨quiet, full, trivial⟩
      have longer := ih onward
      rw [Run.pushAll_append, Run.pushAll_cons, Run.pushAll_nil] at longer
      rw [if_neg full, if_neg (fun ends => full (completes.mp ends)), longer]

/-- Content is copied with its escapes where the copied bytes ask for them. -/
theorem insert_start {limit : Nat} (positive : 0 < limit) (content : Bytes) :
    insert limit .start content = spaced limit [] content :=
  @insert_eq_spaced limit positive [] trivial content

/-- Escapes are taken out of the copies of content, and of nothing else. -/
theorem remove_eq_ok_iff {limit offset : Nat} {run : Run} {frame content : Bytes} :
    remove limit offset run frame = .ok content ↔ frame = insert limit run content := by
  -- Only one direction is new; that copies are read back is known.
  refine ⟨?_, fun copied => by rw [copied, remove_insert]⟩
  -- The reader expects an escape wherever the writer puts one, so what it accepts is a copy.
  intro accepted
  induction offset, run, frame using remove.induct limit generalizing content with
  | case1 offset run =>
    cases accepted
    rfl
  | case2 offset run b full => simp [remove, full] at accepted
  | case3 offset run b full rest ih =>
    simp only [remove, if_pos full, if_true] at accepted
    obtain ⟨tail, removed, rfl⟩ := Except.map_eq_ok accepted
    rw [insert, if_pos full, ← ih removed]
  | case4 offset run b full e rest differs => simp [remove, full, differs] at accepted
  | case5 offset run b rest short ih =>
    rw [remove.eq_def] at accepted
    simp only [if_neg short] at accepted
    obtain ⟨tail, removed, rfl⟩ := Except.map_eq_ok accepted
    rw [insert, if_neg short, ← ih removed]

/-- A fault of a reading that goes on after some bytes is a fault of what comes after them. -/
theorem map_eq_error {found : Except Nat Bytes} {change : Bytes → Bytes} {fault : Nat} :
    found.map change = .error fault ↔ found = .error fault := by
  -- A fault passes through the change, and a success stays one.
  cases found with
  | error other => simp [Except.map]
  | ok content => simp [Except.map]

/--
A copy is refused exactly where a byte has completed a limit of copied bytes and what comes after it
is no escape.
-/
theorem remove_eq_error_iff {limit offset fault : Nat} {run : Run} {frame : Bytes} :
    remove limit offset run frame = .error fault ↔
      ∃ content last rest, frame = insert limit run content ++ last :: rest ∧
        ((trailing limit run content).push last).length = limit ∧
        rest.head? ≠ some Markup.escape.byte ∧
        fault = offset + (insert limit run content).length + 1 := by
  -- The reader and the writer are followed side by side, one byte at a time.
  constructor
  · -- The reader goes along with the writer of what it has read until it is refused.
    intro refused
    induction offset, run, frame using remove.induct limit with
    | case1 offset run => cases refused
    | case2 offset run b full =>
      simp only [remove, if_pos full, Except.error.injEq] at refused
      exact ⟨[], b, [], rfl, full, by simp, refused.symm⟩
    | case3 offset run b full rest ih =>
      simp only [remove, if_pos full, if_true, map_eq_error] at refused
      obtain ⟨content, last, later, rfl, due, lacking, rfl⟩ := ih refused
      refine ⟨b :: content, last, later, ?_, ?_, lacking, ?_⟩
      · simp only [insert, if_pos full, List.cons_append]
      · rw [trailing, if_pos full, due]
      · simp only [insert, if_pos full, List.length_cons]
        omega
    | case4 offset run b full e rest differs =>
      simp only [remove, if_pos full, if_neg differs, Except.error.injEq] at refused
      refine ⟨[], b, e :: rest, rfl, full, ?_, refused.symm⟩
      exact fun same => differs (Option.some.inj same)
    | case5 offset run b rest short ih =>
      rw [remove.eq_def] at refused
      simp only [if_neg short, map_eq_error] at refused
      obtain ⟨content, last, later, rfl, due, lacking, rfl⟩ := ih refused
      refine ⟨b :: content, last, later, ?_, ?_, lacking, ?_⟩
      · simp only [insert, if_neg short, List.cons_append]
      · rw [trailing, if_neg short, due]
      · simp only [insert, if_neg short, List.length_cons]
        omega
  · -- Up to the byte that completes the limit everything is copied, and the next one is judged.
    rintro ⟨content, last, rest, rfl, due, lacking, rfl⟩
    rw [remove_append, map_eq_error, remove.eq_def]
    simp only [if_pos due]
    cases rest with
    | nil => rfl
    | cons e rest =>
      have differs : e ≠ Markup.escape.byte := fun same => lacking (congrArg some same)
      simp only [if_neg differs]

/-- Where an inserted escape is due: after so many bytes of a frame, which are copied content. -/
def DueAt (limit : Nat) (frame : Bytes) (count : Nat) : Prop :=
  -- The content ends in a closing byte, so the escape after its copy is none of its own bytes.
  count ≤ frame.length ∧ ∃ (content : Bytes) (kind : Markup), kind.closes = true ∧
    spaced limit [] (content ++ [kind.byte]) = frame.take count ++ [Markup.escape.byte]

/-- Where an inserted escape is due but another byte stands, or none. -/
def MissingAt (limit : Nat) (frame : Bytes) (count : Nat) : Prop :=
  DueAt limit frame count ∧ frame[count]? ≠ some Markup.escape.byte

/-- Content that ends in a closing byte is copied with an escape at its end if a limit is complete. -/
theorem insert_concat_closing {limit : Nat} {kind : Markup} (closes : kind.closes = true)
    {content front : Bytes} :
    insert limit .start (content ++ [kind.byte]) = front ++ [Markup.escape.byte] ↔
      front = insert limit .start content ++ [kind.byte] ∧
        ((trailing limit .start content).push kind.byte).length = limit := by
  -- Only the last byte decides whether an escape comes at the end.
  rw [insert_append, insert]
  split
  · -- The escape comes after the byte.
    rename_i full
    have shape : insert limit .start content ++ [kind.byte, Markup.escape.byte] =
        (insert limit .start content ++ [kind.byte]) ++ [Markup.escape.byte] := by simp
    simp only [insert, full, and_true, shape, List.append_left_inj]
    exact eq_comm
  · -- The copy ends in the byte, which is no escape.
    rename_i short
    simp only [insert, short, and_false, iff_false]
    intro shape
    have same := List.singleton_inj.mp (List.append_inj' shape rfl).2
    have closing := Markup.closing?_eq_some.mpr ⟨closes, same⟩
    cases closing

/-- Reading the copied part of a frame fails exactly where an escape is missing. -/
theorem remove_eq_error_iff_missingAt {limit : Nat} (positive : 0 < limit) {frame : Bytes}
    {count : Nat} : remove limit 0 .start frame = .error count ↔ MissingAt limit frame count := by
  -- Both sides name the content that has been copied before the fault.
  rw [remove_eq_error_iff]
  constructor
  · -- The byte that has completed a limit is the last one of the content copied so far.
    rintro ⟨content, last, rest, rfl, full, lacking, rfl⟩
    obtain ⟨kind, closing⟩ : ∃ kind, Markup.closing? last = some kind := by
      refine Option.ne_none_iff_exists'.mp fun plain => ?_
      rw [Run.length_push_eq_zero plain] at full
      omega
    obtain ⟨closes, rfl⟩ := Markup.closing?_eq_some.mp closing
    have length : 0 + (insert limit .start content).length + 1 =
        (insert limit .start content ++ [kind.byte]).length := by simp
    have shape : insert limit .start content ++ kind.byte :: rest =
        (insert limit .start content ++ [kind.byte]) ++ rest := by simp
    rw [length, shape]
    refine ⟨⟨?_, content, kind, closes, ?_⟩, ?_⟩
    · simp only [List.length_append]
      omega
    · rw [List.take_left, ← insert_start positive]
      exact (insert_concat_closing closes).mpr ⟨rfl, full⟩
    · rw [List.getElem?_append_right (Nat.le_refl _), Nat.sub_self, ← List.head?_eq_getElem?]
      exact lacking
  · -- The frame is the content copied so far, and then what stands in place of the escape.
    rintro ⟨⟨within, content, kind, closes, due⟩, lacking⟩
    rw [← insert_start positive] at due
    obtain ⟨front, full⟩ := (insert_concat_closing closes).mp due
    have length := congrArg List.length front
    rw [List.length_take, Nat.min_eq_left within, List.length_append, List.length_singleton]
      at length
    refine ⟨content, kind.byte, frame.drop count, ?_, full, ?_, ?_⟩
    · rw [List.append_cons, ← front, List.take_append_drop]
    · rw [List.head?_drop]
      exact lacking
    · rw [length, Nat.zero_add]

/-- Taking the guard off leaves a given frame if that is all there was, or all but a last escape. -/
theorem unguard_eq_iff {frame copied : Bytes} :
    unguard frame = copied ↔ frame = copied ++ [Markup.escape.byte] ∨
      (frame = copied ∧ frame.getLast? ≠ some Markup.escape.byte) := by
  -- All depends on the last byte, if there is one.
  rcases List.eq_nil_or_concat frame with rfl | ⟨front, last, rfl⟩
  · simp [unguard]
  · rw [List.concat_eq_append, unguard, List.getLast?_concat, List.dropLast_concat]
    by_cases same : last = Markup.escape.byte
    · subst same
      simp
    · simp [same]

/--
The frames that are read as some content are its escaped copy with one more escape behind it, and
the copy itself if it does not end in an escape; every other frame is refused at the first offset at
which an inserted escape is due but another byte stands, or none, a last escape left aside.
-/
theorem decode_exact (runLength : Nat) (frame : Bytes) :
    let reads := fun content : Bytes =>
      let copied := spaced (limit runLength) [] content
      frame = copied ++ [Markup.escape.byte] ∨
        (frame = copied ∧ frame.getLast? ≠ some Markup.escape.byte)
    (∀ content, decode runLength frame = .ok content ↔ reads content) ∧
    ((∀ content, ¬ reads content) → ∃ offset, decode runLength frame = .error offset ∧
      IsLeast {count | MissingAt (limit runLength) (unguard frame) count} offset) := by
  -- What is accepted is settled first, and the offset of a refusal from what is missing there.
  intro reads
  have accepted : ∀ content, decode runLength frame = .ok content ↔ reads content := by
    intro content
    rw [decode, remove_eq_ok_iff, unguard_eq_iff, insert_start (limit_pos runLength)]
  refine ⟨accepted, ?_⟩
  intro none
  cases answered : decode runLength frame with
  | ok content => exact absurd ((accepted content).mp answered) (none content)
  | error offset =>
    -- Reading stops at every such offset, so there is only one.
    have missing : ∀ count, decode runLength frame = .error count ↔
        MissingAt (limit runLength) (unguard frame) count :=
      fun count => remove_eq_error_iff_missingAt (limit_pos runLength)
    refine ⟨offset, rfl, (missing offset).mp answered, ?_⟩
    intro count lacks
    have also := (missing count).mpr lacks
    rw [answered] at also
    cases also
    exact Nat.le_refl _

/-- A run at the limit has to be followed by an escape, and a letter is none. -/
example : decode 16 (List.replicate 15 0x04 ++ [0x78]) = .error 15 := by decide

end Escape

end SentinelRounds
