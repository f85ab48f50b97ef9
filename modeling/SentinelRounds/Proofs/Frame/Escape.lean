import SentinelRounds.Frame.Writer
import SentinelRounds.Proofs.Frame.Search

/-! Escaped content carries no full run, ends in no run, and reads back as it was. -/

namespace SentinelRounds

namespace Escape

/-- For runs of at least two bytes, the limit of unescaped content is one byte short of a run. -/
theorem limit_add_one {runLength : Nat} (regular : 2 ≤ runLength) :
    limit runLength + 1 = runLength := by
  -- The limit is only raised for runs of a single byte.
  unfold limit
  omega

/-- Copied content has no run longer than the limit. -/
theorem quiet_insert {limit : Nat} (run : Run) (below : run.length < limit) (content : Bytes) :
    run.Quiet (limit + 1) (insert limit run content) := by
  -- A run at the limit is followed by an escape, which ends it.
  induction content generalizing run with
  | nil => trivial
  | cons b rest ih =>
    have step := Run.length_push_le run b
    rw [insert]
    split
    · -- The byte reaches the limit, and the escape after it ends the run.
      refine ⟨by omega, ?_, ?_⟩
      · rw [Run.push_of_not_closing rfl]
        exact Nat.ne_of_lt (Nat.succ_pos limit)
      · rw [Run.push_of_not_closing rfl]
        exact ih .start (Nat.lt_of_le_of_lt (Nat.zero_le _) below)
    · -- The byte leaves a run below the limit.
      exact ⟨by omega, ih _ (by omega)⟩

/-- The run that copied content leaves behind, which an escape ends. -/
def trailing (limit : Nat) (run : Run) : Bytes → Run
  | [] => run
  | b :: rest =>
    if (run.push b).length = limit then trailing limit .start rest
    else trailing limit (run.push b) rest

/-- Content is copied piece by piece, each with the run that the pieces before it leave. -/
theorem insert_append (limit : Nat) (run : Run) (first second : Bytes) :
    insert limit run (first ++ second) =
      insert limit run first ++ insert limit (trailing limit run first) second := by
  -- Every byte of the first piece moves the run on for both sides alike.
  induction first generalizing run with
  | nil => rfl
  | cons b rest ih =>
    simp only [List.cons_append, insert, trailing]
    split <;> simp [ih]

/-- Content that ends in a byte that closes nothing is copied up to that byte. -/
theorem insert_concat {limit : Nat} (positive : 0 < limit) {last : UInt8}
    (plain : Markup.closing? last = none) (run : Run) (content : Bytes) :
    insert limit run (content ++ [last]) = insert limit run content ++ [last] := by
  -- The last byte leaves a run of no length, so no escape follows it.
  have empty := Run.length_push_eq_zero plain (trailing limit run content)
  rw [insert_append]
  simp [insert, empty, Nat.ne_of_lt positive]

/-- What comes after copied content is read with the run that the content leaves. -/
theorem remove_append (limit offset : Nat) (run : Run) (content rest : Bytes) :
    remove limit offset run (insert limit run content ++ rest) =
      (remove limit (offset + (insert limit run content).length) (trailing limit run content)
        rest).map (content ++ ·) := by
  -- The reader tracks the same run as the writer, so it expects every escape where one stands.
  induction content generalizing offset run with
  | nil =>
    simp only [insert, trailing, List.nil_append, List.length_nil, Nat.add_zero]
    cases remove limit offset run rest <;> rfl
  | cons b content ih =>
    rw [insert, trailing]
    split
    · -- Where the writer put an escape, the reader takes it out.
      rename_i full
      have moved : offset + 2 + (insert limit .start content).length =
          offset + (b :: Markup.escape.byte :: insert limit .start content).length := by
        simp only [List.length_cons]
        omega
      rw [List.cons_append, List.cons_append, remove.eq_def]
      simp only [if_pos full, if_true, ih, moved]
      cases remove limit _ (trailing limit .start content) rest <;> rfl
    · -- Where it put none, the reader expects none.
      rename_i short
      have moved : offset + 1 + (insert limit (run.push b) content).length =
          offset + (b :: insert limit (run.push b) content).length := by
        simp only [List.length_cons]
        omega
      rw [List.cons_append, remove.eq_def]
      simp only [if_neg short, ih, moved]
      cases remove limit _ (trailing limit (run.push b) content) rest <;> rfl

/-- Copied content reads back as it was. -/
theorem remove_insert (limit offset : Nat) (run : Run) (content : Bytes) :
    remove limit offset run (insert limit run content) = .ok content := by
  -- There is nothing left to read after it.
  have whole := remove_append limit offset run content []
  rw [List.append_nil, remove] at whole
  rw [whole]
  exact congrArg Except.ok (List.append_nil content)

/-- The guard of content is decided by the last byte. -/
theorem guard_concat (front : Bytes) (last : UInt8) :
    guard (front ++ [last]) = if guards last then [Markup.escape.byte] else [] := by
  rw [guard, List.getLast?_concat]

/-- A byte that needs no guard closes nothing and is no escape. -/
theorem guards_eq_false {last : UInt8} :
    guards last = false ↔ Markup.closing? last = none ∧ last ≠ Markup.escape.byte := by
  simp [guards]

/-- The limit of unescaped content is never zero. -/
theorem limit_pos (runLength : Nat) : 0 < limit runLength := by
  -- It is never taken below one.
  unfold limit
  omega

/-- Encoded content is empty, or ends in a byte that closes nothing. -/
theorem encode_ends_plain (runLength : Nat) (content : Bytes) :
    encode runLength content = [] ∨
      ∃ front last, encode runLength content = front ++ [last] ∧ Markup.closing? last = none := by
  -- A last byte that closes something is guarded by an escape.
  rcases List.eq_nil_or_concat content with rfl | ⟨front, last, rfl⟩
  · exact .inl rfl
  · refine .inr ?_
    rw [List.concat_eq_append, encode, guard_concat]
    cases needed : guards last with
    | true => exact ⟨_, Markup.escape.byte, rfl, rfl⟩
    | false =>
      have plain := (guards_eq_false.mp needed).1
      refine ⟨insert (limit runLength) .start front, last, ?_, plain⟩
      simp [insert_concat (limit_pos runLength) plain]

/-- Encoded content does not end in a closing byte. -/
theorem getLast?_encode (runLength : Nat) (content : Bytes) {kind : Markup}
    (closes : kind.closes = true) : (encode runLength content).getLast? ≠ some kind.byte := by
  -- Content is nothing at all, or it is guarded down to a plain byte.
  rcases encode_ends_plain runLength content with empty | ⟨front, last, shape, plain⟩
  · simp [empty]
  · rw [shape, List.getLast?_concat]
    intro same
    have closing := Markup.closing?_eq_some.mpr ⟨closes, (Option.some.inj same).symm⟩
    rw [plain] at closing
    cases closing

/-- Encoded content leaves no run behind, so a terminator after it stands alone. -/
theorem pushAll_encode (runLength : Nat) (content : Bytes) :
    Run.start.pushAll (encode runLength content) = Run.start := by
  -- Its last byte ends whatever run stands before it.
  rcases encode_ends_plain runLength content with empty | ⟨front, last, shape, plain⟩
  · rw [empty]
    rfl
  · rw [shape]
    exact Run.pushAll_concat_plain plain Run.start front

/-- Encoded content is quiet. -/
theorem quiet_encode {runLength : Nat} (regular : 2 ≤ runLength) (content : Bytes) :
    Run.start.Quiet runLength (encode runLength content) := by
  -- Only the guard comes after the copied content, and it closes nothing.
  have copied : Run.start.Quiet runLength (insert (limit runLength) .start content) := by
    have quiet := quiet_insert .start (limit_pos runLength) content
    rwa [limit_add_one regular] at quiet
  refine Run.quiet_append.mpr ⟨copied, ?_⟩
  have short : (0 : Nat) ≠ runLength := by omega
  -- The guard is one escape, or nothing at all.
  unfold guard
  split
  · split
    · refine ⟨?_, trivial⟩
      rwa [Run.length_push_eq_zero rfl]
    · trivial
  · trivial

/-- Taking the guard off encoded content leaves the copied content. -/
theorem unguard_encode (runLength : Nat) (content : Bytes) :
    unguard (encode runLength content) = insert (limit runLength) .start content := by
  -- What is taken off is decided by the last byte, like the guard itself.
  rcases List.eq_nil_or_concat content with rfl | ⟨front, last, rfl⟩
  · rfl
  · rw [List.concat_eq_append, encode, guard_concat, unguard]
    cases needed : guards last with
    | true => simp
    | false =>
      -- Content without a guard ends in its own last byte, which is no escape.
      obtain ⟨plain, differs⟩ := guards_eq_false.mp needed
      simp [insert_concat (limit_pos runLength) plain, differs]

/-- Encoded content reads back as it was. -/
theorem decode_encode (runLength : Nat) (content : Bytes) :
    decode runLength (encode runLength content) = .ok content := by
  rw [decode, unguard_encode, remove_insert]

/-- Copying adds at most one escape for each full limit of content and of the run before it. -/
theorem length_insert_le {limit : Nat} (positive : 0 < limit) (run : Run)
    (below : run.length < limit) (content : Bytes) :
    (insert limit run content).length ≤
      content.length + (content.length + run.length) / limit := by
  -- Each byte of content, and of the run before it, pays a share of the next escape.
  induction content generalizing run with
  | nil => exact Nat.zero_le _
  | cons b rest ih =>
    have step := Run.length_push_le run b
    rw [insert]
    split
    · -- An escape is paid for by the run that has just reached the limit.
      have tail := ih .start positive
      have paid : (rest.length + limit) / limit ≤ (rest.length + 1 + run.length) / limit :=
        Nat.div_le_div_right (by omega)
      rw [Nat.add_div_right _ positive] at paid
      simp only [Run.start, Nat.add_zero, List.length_cons] at tail ⊢
      omega
    · -- Below the limit, the run grows by what the content shrinks.
      have tail := ih (run.push b) (by omega)
      have grown : (rest.length + (run.push b).length) / limit
          ≤ (rest.length + 1 + run.length) / limit :=
        Nat.div_le_div_right (by omega)
      simp only [List.length_cons]
      omega

/-- Encoded content takes no more than the size allowed for. -/
theorem length_encode_le (runLength : Nat) (content : Bytes) :
    (encode runLength content).length ≤ maxLength content.length runLength := by
  -- The guard is the one byte beyond what copying takes.
  have copied := length_insert_le (limit_pos runLength) .start (limit_pos runLength) content
  have guarded : (guard content).length ≤ 1 := by
    unfold guard
    split
    · split <;> simp
    · simp
  have empty : Run.start.length = 0 := rfl
  rw [empty, Nat.add_zero] at copied
  rw [encode, maxLength, List.length_append]
  omega

/-- Copying so many of one closing byte adds an escape for each full limit, with the run before. -/
theorem length_insert_replicate {limit : Nat} (positive : 0 < limit) {b : UInt8} {kind : Markup}
    (closing : Markup.closing? b = some kind) (run : Run) (below : run.length < limit)
    (own : run.byte = b ∨ run.length = 0) (count : Nat) :
    (insert limit run (List.replicate count b)).length = count + (count + run.length) / limit := by
  -- Every byte lengthens the run, and each time the run reaches the limit an escape follows.
  induction count generalizing run with
  | zero =>
    rw [Nat.zero_add, Nat.zero_add, Nat.div_eq_of_lt below]
    rfl
  | succ count ih =>
    have pushed : run.push b = ⟨b, run.length + 1⟩ := by
      rw [Run.push_of_closing closing]
      split
      · rfl
      · rename_i fresh
        have empty : run.length = 0 := by
          rcases own with same | empty
          · have : ¬ 0 < run.length := fun longer => fresh ⟨longer, same⟩
            omega
          · exact empty
        rw [empty]
    rw [List.replicate_succ, insert, pushed]
    split
    · -- The byte completes a limit, and the count starts again after its escape.
      rename_i full
      simp only at full
      have tail := ih .start positive (.inr rfl)
      have total : count + 1 + run.length = count + Run.start.length + limit := by
        simp only [Run.start]
        omega
      simp only [List.length_cons]
      rw [tail, total, Nat.add_div_right _ positive]
      omega
    · -- The byte is one more of the run.
      rename_i short
      simp only at short
      have tail := ih ⟨b, run.length + 1⟩ (by simp only; omega) (.inl rfl)
      have moved : count + (run.length + 1) = count + 1 + run.length := by omega
      simp only [moved] at tail
      simp only [List.length_cons]
      omega

/-- Content made of one closing byte takes all the size allowed for. -/
theorem length_encode_replicate (runLength : Nat) {b : UInt8} {kind : Markup}
    (closing : Markup.closing? b = some kind) {count : Nat} (some : 0 < count) :
    (encode runLength (List.replicate count b)).length = maxLength count runLength := by
  -- Each full limit of the copies is followed by an escape.
  have copied := length_insert_replicate (limit_pos runLength) closing .start (limit_pos runLength)
    (.inr rfl) count
  -- The last byte is a closing one, so it is guarded.
  have guarded : guard (List.replicate count b) = [Markup.escape.byte] := by
    obtain ⟨fewer, rfl⟩ : ∃ fewer, count = fewer + 1 := ⟨count - 1, by omega⟩
    rw [List.replicate_succ', guard_concat]
    simp [guards, closing]
  have empty : Run.start.length = 0 := rfl
  rw [empty, Nat.add_zero] at copied
  rw [encode, maxLength, List.length_append, copied, guarded, List.length_singleton]

/-- More content is allowed no less space. -/
theorem maxLength_mono {shorter longer : Nat} (ordered : shorter ≤ longer) (runLength : Nat) :
    maxLength shorter runLength ≤ maxLength longer runLength := by
  -- The content is no longer, and neither is the number of its escapes.
  have parts := Nat.div_le_div_right (c := limit runLength) ordered
  unfold maxLength
  omega

/-- Encoded content is no shorter than what it encodes. -/
theorem length_le_length_encode (runLength : Nat) (content : Bytes) :
    content.length ≤ (encode runLength content).length := by
  -- Copying drops nothing.
  have copied : ∀ (run : Run) (content : Bytes),
      content.length ≤ (insert (limit runLength) run content).length := by
    intro run content
    induction content generalizing run with
    | nil => exact Nat.zero_le _
    | cons b rest ih =>
      rw [insert]
      split
      · have tail := ih .start
        simp only [List.length_cons]
        omega
      · have tail := ih (run.push b)
        simp only [List.length_cons]
        omega
  -- The guard only adds to the copied content.
  have front := copied .start content
  rw [encode, List.length_append]
  omega

/-- Content without closing bytes is copied as it is. -/
theorem insert_of_plain {limit : Nat} (positive : 0 < limit) {content : Bytes}
    (plain : ∀ b ∈ content, Markup.closing? b = none) (run : Run) :
    insert limit run content = content := by
  -- No byte makes a run, so none reaches the limit.
  induction content generalizing run with
  | nil => rfl
  | cons b rest ih =>
    obtain ⟨here, later⟩ := List.forall_mem_cons.mp plain
    have short : (run.push b).length ≠ limit := by
      rw [Run.length_push_eq_zero here]
      exact Nat.ne_of_lt positive
    rw [insert, if_neg short, ih later]

/-- Content travels as it is if no byte of it would need a guard. -/
theorem encode_of_plain (runLength : Nat) {content : Bytes}
    (plain : ∀ b ∈ content, guards b = false) : encode runLength content = content := by
  -- No run is started, so nothing is inserted and nothing put behind.
  have copied := insert_of_plain (limit_pos runLength)
    (fun b member => (guards_eq_false.mp (plain b member)).1) .start
  -- The last byte is one of them.
  have unguarded : guard content = [] := by
    rcases List.eq_nil_or_concat content with rfl | ⟨front, last, rfl⟩
    · rfl
    · have ends := plain last (by simp)
      rw [List.concat_eq_append, guard_concat, ends]
      rfl
  rw [encode, copied, unguarded, List.append_nil]

end Escape

end SentinelRounds
