import Mathlib.Data.List.Induction
import SentinelRounds.Frame.Scanner

/-! Where a forward search stops: at the end of the first full run of a stream, if it has one. -/

namespace SentinelRounds

namespace Run

/-- Whether no run of exactly this length ends anywhere in a further piece of the stream. -/
def Quiet (runLength : Nat) (run : Run) : Bytes → Prop
  -- The run is looked at after every byte of the piece, and not before the first one.
  | [] => True
  | b :: rest => (run.push b).length ≠ runLength ∧ (run.push b).Quiet runLength rest

/-- A quiet piece followed by another is quiet if the other is quiet after it. -/
theorem quiet_append {runLength : Nat} {run : Run} {first second : Bytes} :
    run.Quiet runLength (first ++ second) ↔
      run.Quiet runLength first ∧ (run.pushAll first).Quiet runLength second := by
  -- Every byte of the first piece moves the run on for both sides alike.
  induction first generalizing run with
  | nil => simp [Quiet]
  | cons b rest ih => simp [Quiet, ih, and_assoc]

/-- Every beginning of a quiet piece is quiet. -/
theorem Quiet.take {runLength : Nat} {run : Run} {bytes : Bytes}
    (quiet : run.Quiet runLength bytes) (count : Nat) : run.Quiet runLength (bytes.take count) := by
  -- The piece is its beginning followed by the rest.
  rw [← List.take_append_drop count bytes] at quiet
  exact (quiet_append.mp quiet).1

/-- A byte that closes nothing leaves a run of no length. -/
theorem length_push_eq_zero {b : UInt8} (plain : Markup.closing? b = none) (run : Run) :
    (run.push b).length = 0 := by
  -- Such a byte takes the run back to its start.
  rw [push_of_not_closing plain]
  rfl

/-- A piece that ends in a byte that closes nothing leaves no run behind. -/
theorem pushAll_concat_plain {b : UInt8} (plain : Markup.closing? b = none) (run : Run)
    (bytes : Bytes) : run.pushAll (bytes ++ [b]) = start := by
  -- The last byte decides, whatever run stood before it.
  rw [pushAll_append, pushAll_cons, pushAll_nil, push_of_not_closing plain]

/-- A run that starts below a length stays below it in a quiet piece. -/
theorem length_pushAll_lt {runLength : Nat} {run : Run} {bytes : Bytes}
    (below : run.length < runLength) (quiet : run.Quiet runLength bytes) :
    (run.pushAll bytes).length < runLength := by
  -- One byte lengthens the run by at most one, so the length cannot be passed without being met.
  induction bytes generalizing run with
  | nil => exact below
  | cons b rest ih =>
    obtain ⟨differs, quiet⟩ := quiet
    have step := length_push_le run b
    exact ih (by omega) quiet

/-- A piece lengthens the run by at most one for each of its bytes. -/
theorem length_pushAll_le (run : Run) (bytes : Bytes) :
    (run.pushAll bytes).length ≤ run.length + bytes.length := by
  -- One byte lengthens the run by at most one.
  induction bytes generalizing run with
  | nil => exact Nat.le_refl _
  | cons b rest ih =>
    have step := length_push_le run b
    have tail := ih (run.push b)
    rw [pushAll_cons, List.length_cons]
    omega

/-- A piece too short to complete the run before it is quiet. -/
theorem quiet_of_short {runLength : Nat} {run : Run} {bytes : Bytes}
    (short : run.length + bytes.length < runLength) : run.Quiet runLength bytes := by
  -- Every byte leaves one fewer to come, so the full length is never met.
  induction bytes generalizing run with
  | nil => trivial
  | cons b rest ih =>
    have step := length_push_le run b
    rw [List.length_cons] at short
    exact ⟨by omega, ih (by omega)⟩

/-- A quiet piece stays quiet, or a run reaches the full length for the first time. -/
theorem quiet_or_reaches (runLength : Nat) (run : Run) (bytes : Bytes) :
    run.Quiet runLength bytes ∨ ∃ before b after, bytes = before ++ b :: after ∧
      run.Quiet runLength before ∧ ((run.pushAll before).push b).length = runLength := by
  -- The first byte either completes the run or leaves the question to the bytes after it.
  induction bytes generalizing run with
  | nil => exact .inl trivial
  | cons b rest ih =>
    by_cases reached : (run.push b).length = runLength
    · exact .inr ⟨[], b, rest, rfl, trivial, reached⟩
    · rcases ih (run.push b) with quiet | ⟨before, c, after, rfl, quiet, full⟩
      · exact .inl ⟨reached, quiet⟩
      · exact .inr ⟨b :: before, c, after, rfl, ⟨reached, quiet⟩, full⟩

/-- A closing byte extends its own run and starts a new one after any other. -/
theorem push_of_closing {b : UInt8} {kind : Markup} (closing : Markup.closing? b = some kind)
    (run : Run) :
    run.push b = if 0 < run.length ∧ run.byte = b then ⟨b, run.length + 1⟩ else ⟨b, 1⟩ := by
  -- The outer test succeeds.
  simp [push, closing]

/-- A stream ends in a run of some length exactly if it ends in so many of the run's byte. -/
theorem le_length_pushAll_iff {b : UInt8} {kind : Markup} (closing : Markup.closing? b = some kind)
    (stream : Bytes) {count : Nat} (positive : 0 < count) :
    count ≤ (start.pushAll stream).length ∧ (start.pushAll stream).byte = b ↔
      List.replicate count b <:+ stream := by
  -- The induction takes the last byte of the stream and one byte of the run together.
  induction stream using List.reverseRecOn generalizing count with
  | nil =>
    have positive := Nat.ne_of_gt positive
    simp [start, positive]
  | append_singleton stream last ih =>
    obtain ⟨count, rfl⟩ : ∃ fewer, count = fewer + 1 := ⟨count - 1, by omega⟩
    have suffix : List.replicate (count + 1) b <:+ stream ++ [last] ↔
        List.replicate count b <:+ stream ∧ b = last := by
      have single : [b].length = [last].length := rfl
      rw [List.replicate_succ', List.suffix_append_inj_of_length_eq single]
      simp
    rw [suffix, pushAll_append, pushAll_cons, pushAll_nil]
    cases found : Markup.closing? last with
    | none =>
      -- A byte that closes nothing is none of the run's bytes.
      rw [push_of_not_closing found]
      have differs : b ≠ last := fun same => by simp [← same, closing] at found
      simp [start, differs]
    | some other =>
      rw [push_of_closing found]
      -- A closing byte goes on with a run of its own value, or begins a new one.
      by_cases same : b = last
      · subst same
        rcases Nat.eq_zero_or_pos count with rfl | more
        · split <;> simp
        · -- A longer run ends in the last byte, with a run one shorter before it.
          rw [← ih more]
          split
          · rename_i onward
            simp [onward.2]
          · rename_i fresh
            simp only [not_and] at fresh
            -- A byte that does not go on with the run leaves one of length one.
            constructor
            · intro single
              have := single.1
              simp only at this
              omega
            · intro longer
              exact absurd longer.1.2 (fresh (by omega))
      · have differs : last ≠ b := fun equal => same equal.symm
        simp only [same, and_false, iff_false, not_and]
        intro _
        split <;> exact differs

/-- A byte that brings its run to some length ends so many of itself in a row. -/
theorem suffix_of_full {runLength : Nat} (positive : 0 < runLength) {stream : Bytes}
    {kind : Markup} (closes : kind.closes = true)
    (full : ((start.pushAll stream).push kind.byte).length = runLength) :
    List.replicate runLength kind.byte <:+ stream ++ [kind.byte] := by
  -- The bytes in a row are those that the run has counted.
  have closing := Markup.closing?_eq_some.mpr ⟨closes, rfl⟩
  rw [← le_length_pushAll_iff closing _ positive, pushAll_append, pushAll_cons, pushAll_nil]
  refine ⟨Nat.le_of_eq full.symm, ?_⟩
  -- The run that a closing byte leaves is one of that byte.
  rw [push_of_closing closing]
  split <;> rfl

/-- A piece is quiet from the start exactly if none of its beginnings ends in a full run. -/
theorem quiet_start_iff {runLength : Nat} (positive : 0 < runLength) (stream : Bytes) :
    start.Quiet runLength stream ↔
      ∀ (count : Nat) (kind : Markup), kind.closes = true →
        ¬ List.replicate runLength kind.byte <:+ stream.take count := by
  -- Runs that are full and beginnings that end in one are the same thing.
  constructor
  · intro quiet count kind closes suffix
    -- A beginning that ends in a full run has a run of at least that length.
    have closing := Markup.closing?_eq_some.mpr ⟨closes, rfl⟩
    have long := ((le_length_pushAll_iff closing _ positive).mpr suffix).1
    have short := length_pushAll_lt positive (quiet.take count)
    omega
  · -- Otherwise some byte would complete a first full run.
    intro none
    rcases quiet_or_reaches runLength start stream with quiet | ⟨before, b, after, rfl, _, full⟩
    · exact quiet
    · -- The byte that completes a run closes something, and the stream up to it ends in the run.
      cases found : Markup.closing? b with
      | none =>
        have empty := length_push_eq_zero found (start.pushAll before)
        omega
      | some kind =>
        obtain ⟨closes, rfl⟩ := Markup.closing?_eq_some.mp found
        refine absurd ?_ (none (before.length + 1) kind closes)
        have upTo : (before ++ kind.byte :: after).take (before.length + 1)
            = before ++ [kind.byte] := by
          rw [List.take_append, List.take_of_length_le (by omega)]
          simp
        rw [upTo]
        exact suffix_of_full positive closes full

end Run

namespace Scanner

/-- A search passes over a quiet piece and goes on with the run that the piece leaves. -/
theorem seek_append {runLength : Nat} {run : Run} {bytes : Bytes}
    (quiet : run.Quiet runLength bytes) (index : Nat) (rest : Bytes) :
    seek runLength run index (bytes ++ rest) =
      seek runLength (run.pushAll bytes) (index + bytes.length) rest := by
  -- No byte of the piece completes a run, so each is passed.
  induction bytes generalizing run index with
  | nil => rfl
  | cons b bytes ih =>
    obtain ⟨differs, quiet⟩ := quiet
    rw [List.cons_append, seek, Run.pushAll_cons]
    have moved : index + 1 + bytes.length = index + (b :: bytes).length := by
      simp only [List.length_cons]
      omega
    cases found : Markup.closing? b with
    | none =>
      rw [Run.push_of_not_closing found] at quiet ⊢
      rw [ih quiet, moved]
    | some kind =>
      simp only [if_neg differs]
      rw [ih quiet, moved]

/-- A search of a quiet piece comes to its end with the run that the piece leaves. -/
theorem seek_quiet {runLength : Nat} {run : Run} {bytes : Bytes}
    (quiet : run.Quiet runLength bytes) (index : Nat) :
    seek runLength run index bytes = .exhausted (run.pushAll bytes) := by
  -- After the whole piece there is nothing left to search.
  have passed := seek_append quiet index []
  rwa [List.append_nil] at passed

/-- A search stops at the byte that completes a run after a quiet piece. -/
theorem seek_completed {runLength : Nat} {run : Run}
    {before after : Bytes} {kind : Markup} (closes : kind.closes = true)
    (quiet : run.Quiet runLength before)
    (full : ((run.pushAll before).push kind.byte).length = runLength) (index : Nat) :
    seek runLength run index (before ++ kind.byte :: after) =
      .found kind (index + before.length + 1) := by
  -- The quiet piece is passed, and the next byte is the last of the run.
  have closing := Markup.closing?_eq_some.mpr ⟨closes, rfl⟩
  rw [seek_append quiet, seek, closing]
  simp only [if_pos full]

/-- The closing value of which some bytes end in a full run. -/
def runAt? (runLength : Nat) (bytes : Bytes) : Option Markup :=
  -- Full runs of both values cannot end at the same place.
  [Markup.block, .final].find? fun kind => (List.replicate runLength kind.byte).isSuffixOf bytes

/-- The value of the first full run of a stream, and the index just after that run. -/
def firstRun? (runLength : Nat) (stream : Bytes) : Option (Markup × Nat) :=
  -- Longer and longer beginnings of the stream are asked whether they end in a full run.
  (List.range (stream.length + 1)).findSome? fun next =>
    (runAt? runLength (stream.take next)).map fun kind => (kind, next)

/-- Bytes end in a full run of a value exactly if they end in so many of its byte. -/
theorem runAt?_eq_some_iff {runLength : Nat} (positive : 0 < runLength) {bytes : Bytes}
    {kind : Markup} :
    runAt? runLength bytes = some kind ↔
      kind.closes = true ∧ List.replicate runLength kind.byte <:+ bytes := by
  -- The two values are tried one after the other.
  unfold runAt?
  rw [List.find?_cons, List.find?_cons, List.find?_nil]
  simp only [← List.isSuffixOf_iff_suffix]
  constructor
  · -- The value found is one of the two that are tried.
    intro found
    split at found
    · rename_i ends
      cases found
      exact ⟨rfl, ends⟩
    · split at found
      · rename_i ends
        cases found
        exact ⟨rfl, ends⟩
      · cases found
  · rintro ⟨closes, ends⟩
    -- Only two values close anything.
    have two : kind = .block ∨ kind = .final := by
      cases kind <;> first | exact .inl rfl | exact .inr rfl | cases closes
    rcases two with rfl | rfl
    · simp [ends]
    · -- Bytes that end in a run of one value cannot end in a run of the other.
      split
      · rename_i other
        rw [List.isSuffixOf_iff_suffix] at ends other
        have same := (List.suffix_of_suffix_length_le other ends (by simp)).eq_of_length (by simp)
        have differ := congrArg (fun bytes => bytes.head?) same
        simp [List.head?_replicate, Nat.ne_of_gt positive, Markup.byte] at differ
      · simp [ends]

/-- A stream has no full run exactly if it is quiet. -/
theorem firstRun?_eq_none_iff {runLength : Nat} (positive : 0 < runLength) {stream : Bytes} :
    firstRun? runLength stream = none ↔ Run.start.Quiet runLength stream := by
  -- Beginnings longer than the stream are the stream itself.
  rw [Run.quiet_start_iff positive, firstRun?, List.findSome?_eq_none_iff]
  simp only [List.mem_range, Option.map_eq_none_iff]
  constructor
  · -- A longer beginning is asked about as the whole stream.
    intro none count kind closes ends
    have within : min count stream.length < stream.length + 1 := by omega
    have absent := none _ within
    rw [← List.take_eq_take_min] at absent
    rw [(runAt?_eq_some_iff positive).mpr ⟨closes, ends⟩] at absent
    cases absent
  · -- No beginning ends in a run, whichever is asked about.
    intro none next _
    cases found : runAt? runLength (stream.take next) with
    | none => rfl
    | some kind =>
      have ends := (runAt?_eq_some_iff positive).mp found
      exact absurd ends.2 (none next kind ends.1)

/-- The first full run ends where a byte completes a run after a quiet piece. -/
theorem firstRun?_completed {runLength : Nat} (positive : 0 < runLength) {before after : Bytes}
    {kind : Markup} (closes : kind.closes = true) (quiet : Run.start.Quiet runLength before)
    (full : ((Run.start.pushAll before).push kind.byte).length = runLength) :
    firstRun? runLength (before ++ kind.byte :: after) = some (kind, before.length + 1) := by
  -- The beginnings up to the quiet piece end in no run, and the next one does.
  have ends : runAt? runLength ((before ++ kind.byte :: after).take (before.length + 1))
      = some kind := by
    rw [List.take_append, List.take_of_length_le (by omega), Nat.add_sub_cancel_left,
      List.take_succ_cons, List.take_zero, runAt?_eq_some_iff positive]
    exact ⟨closes, Run.suffix_of_full positive closes full⟩
  -- The beginnings are tried in the order of their lengths.
  have split : List.range ((before ++ kind.byte :: after).length + 1) =
      List.range (before.length + 1) ++
        (before.length + 1) :: (List.range after.length).map (before.length + 2 + ·) := by
    have length : (before ++ kind.byte :: after).length + 1
        = (before.length + 1) + (after.length + 1) := by
      simp only [List.length_append, List.length_cons]
      omega
    rw [length, List.range_add, List.range_succ_eq_map (n := after.length), List.map_cons,
      List.map_map]
    have shift : (fun count => before.length + 1 + count) ∘ Nat.succ
        = (before.length + 2 + ·) := by
      funext count
      simp only [Function.comp_apply]
      omega
    rw [shift, Nat.add_zero]
  rw [firstRun?, List.findSome?_eq_some_iff]
  refine ⟨_, before.length + 1, _, split, by rw [ends]; rfl, ?_⟩
  -- A shorter beginning lies within the quiet piece.
  intro next member
  have within : next ≤ before.length := by
    have := List.mem_range.mp member
    omega
  rw [List.take_append_of_le_length within]
  cases found : runAt? runLength (before.take next) with
  | none => rfl
  | some other =>
    have ends := (runAt?_eq_some_iff positive).mp found
    exact absurd ends.2 ((Run.quiet_start_iff positive before).mp quiet next other ends.1)

/-- Where the first full run ends, the bytes before its last byte are quiet. -/
theorem firstRun?_eq_some {runLength : Nat} (positive : 0 < runLength) {stream : Bytes}
    {kind : Markup} {next : Nat} (found : firstRun? runLength stream = some (kind, next)) :
    ∃ before after, stream = before ++ kind.byte :: after ∧ next = before.length + 1 ∧
      kind.closes = true ∧ Run.start.Quiet runLength before ∧
      ((Run.start.pushAll before).push kind.byte).length = runLength := by
  -- A stream that is not quiet has a byte that first completes a run, and that is the one found.
  rcases Run.quiet_or_reaches runLength Run.start stream with
    quiet | ⟨before, b, after, rfl, quiet, full⟩
  · rw [(firstRun?_eq_none_iff positive).mpr quiet] at found
    cases found
  · -- A byte that completes a run closes something.
    cases closing : Markup.closing? b with
    | none =>
      have empty := Run.length_push_eq_zero closing (Run.start.pushAll before)
      omega
    | some other =>
      obtain ⟨closes, rfl⟩ := Markup.closing?_eq_some.mp closing
      rw [firstRun?_completed positive closes quiet full] at found
      cases found
      exact ⟨before, after, rfl, rfl, closes, quiet, full⟩

/-- A first full run lies within the stream and is no shorter than its length. -/
theorem firstRun?_bounds {runLength : Nat} (positive : 0 < runLength) {stream : Bytes}
    {kind : Markup} {next : Nat} (found : firstRun? runLength stream = some (kind, next)) :
    runLength ≤ next ∧ next ≤ stream.length := by
  -- A run grows by one byte at a time, from nothing at the start of the stream.
  obtain ⟨before, after, rfl, rfl, _, _, full⟩ := firstRun?_eq_some positive found
  have step := Run.length_push_le (Run.start.pushAll before) kind.byte
  have grown := Run.length_pushAll_le Run.start before
  have empty : Run.start.length = 0 := rfl
  rw [List.length_append, List.length_cons]
  omega

/-- More bytes after a first full run do not change where it ends. -/
theorem firstRun?_append {runLength : Nat} (positive : 0 < runLength) {stream : Bytes}
    {kind : Markup} {next : Nat} (found : firstRun? runLength stream = some (kind, next))
    (rest : Bytes) : firstRun? runLength (stream ++ rest) = some (kind, next) := by
  -- The bytes up to the end of the run decide alone.
  obtain ⟨before, after, rfl, rfl, closes, quiet, full⟩ := firstRun?_eq_some positive found
  rw [List.append_assoc, List.cons_append]
  exact firstRun?_completed positive closes quiet full

/-- The first full run of the first bytes of a stream is that of the stream, if they hold it. -/
theorem firstRun?_take {runLength : Nat} (positive : 0 < runLength) (stream : Bytes)
    (count : Nat) :
    firstRun? runLength (stream.take count) =
      (firstRun? runLength stream).filter fun found => found.2 ≤ count := by
  -- Either there is no full run to be cut through, or its end decides.
  cases found : firstRun? runLength stream with
  | none =>
    have quiet := (firstRun?_eq_none_iff positive).mp found
    exact (firstRun?_eq_none_iff positive).mpr (quiet.take count)
  | some first =>
    obtain ⟨kind, next⟩ := first
    obtain ⟨before, after, rfl, rfl, closes, quiet, full⟩ := firstRun?_eq_some positive found
    by_cases within : before.length + 1 ≤ count
    · -- The first bytes reach past the run.
      obtain ⟨more, rfl⟩ : ∃ more, count = before.length + (more + 1) :=
        ⟨count - before.length - 1, by omega⟩
      have window : (before ++ kind.byte :: after).take (before.length + (more + 1)) =
          before ++ kind.byte :: after.take more := by
        rw [List.take_length_add_append, List.take_succ_cons]
      rw [window, firstRun?_completed positive closes quiet full]
      simp only [Option.filter, decide_eq_true within, if_true]
    · -- They end before the run is complete.
      have window : (before ++ kind.byte :: after).take count = before.take count :=
        List.take_append_of_le_length (by omega)
      rw [window, (firstRun?_eq_none_iff positive).mpr (quiet.take count)]
      simp only [Option.filter, decide_eq_false within, Bool.false_eq_true, if_false]

/-- A search that goes on after a quiet piece ends where the first full run of the whole does. -/
theorem seek_resume {runLength : Nat} (positive : 0 < runLength) {seen : Bytes}
    (quiet : Run.start.Quiet runLength seen) (unseen : Bytes) :
    seek runLength (Run.start.pushAll seen) seen.length unseen =
      match firstRun? runLength (seen ++ unseen) with
      | none => .exhausted (Run.start.pushAll (seen ++ unseen))
      | some (kind, next) => .found kind next := by
  -- A search from the start of the whole passes over the quiet piece first.
  have whole := seek_append quiet 0 unseen
  rw [Nat.zero_add] at whole
  rw [← whole]
  cases found : firstRun? runLength (seen ++ unseen) with
  | none => exact seek_quiet ((firstRun?_eq_none_iff positive).mp found) 0
  | some first =>
    obtain ⟨kind, next⟩ := first
    obtain ⟨before, after, shape, rfl, closes, quiet, full⟩ := firstRun?_eq_some positive found
    rw [shape, seek_completed closes quiet full, Nat.zero_add]

/-- Searching a piece further on in a buffer moves what is found by as much. -/
theorem seek_add (runLength : Nat) (run : Run) (base index : Nat) (bytes : Bytes) :
    seek runLength run (base + index) bytes =
      match seek runLength run index bytes with
      | .exhausted run => .exhausted run
      | .found kind next => .found kind (base + next) := by
  -- The index only counts along.
  induction bytes generalizing run index with
  | nil => rfl
  | cons b rest ih =>
    rw [seek, seek]
    cases Markup.closing? b with
    | none => exact ih .start (index + 1)
    | some kind =>
      simp only
      split
      · rfl
      · exact ih (run.push b) (index + 1)

/-- A fresh forward scanner that leaves out the first bytes of every buffer. -/
def startingAt (runLength offset : Nat) : Scanner := { ofRunLength runLength with offset }

/-- The scanner of a buffer that it has searched from the offset on without success. -/
def paused (runLength offset : Nat) (seen : Bytes) : Scanner :=
  { startingAt runLength offset with
    cursor := seen.length, run := Run.start.pushAll (seen.drop offset) }

/--
A scanner that is handed a longer buffer searches on from where it stands, and after a success it is
as fresh as at the start; a run has at least one byte.
-/
theorem scan_paused {runLength offset : Nat} {seen : Bytes}
    (quiet : Run.start.Quiet (max runLength 1) (seen.drop offset)) (unseen : Bytes) :
    (paused runLength offset seen).scan (seen ++ unseen) =
      match firstRun? (max runLength 1) ((seen ++ unseen).drop offset) with
      | none => (none, paused runLength offset (seen ++ unseen))
      | some (kind, next) =>
        (some ⟨kind, offset + next - max runLength 1, offset + next⟩,
          startingAt runLength offset) := by
  -- The scanner goes on as one that has seen everything at once.
  have positive : 0 < max runLength 1 := by omega
  -- What is left to search are the unseen bytes from the offset on.
  have left : (seen ++ unseen).drop (max seen.length offset) =
      unseen.drop (offset - seen.length) := by
    have beyond : max seen.length offset - seen.length = offset - seen.length := by omega
    rw [List.drop_append, List.drop_of_length_le (by omega), List.nil_append, beyond]
  have whole : (seen ++ unseen).drop offset =
      seen.drop offset ++ unseen.drop (offset - seen.length) := List.drop_append
  have place : max seen.length offset = offset + (seen.drop offset).length := by
    rw [List.length_drop]
    omega
  have found := seek_resume positive quiet (unseen.drop (offset - seen.length))
  simp only [scan, paused, startingAt, ofRunLength, scanForward]
  rw [left, place, seek_add, found, ← whole]
  cases firstRun? (max runLength 1) ((seen ++ unseen).drop offset) with
  | none => rfl
  | some first => rfl

/-- The scanner of a buffer all of whose bytes it has searched without success. -/
def passed (runLength : Nat) (seen : Bytes) : Scanner :=
  { ofRunLength runLength with cursor := seen.length, run := Run.start.pushAll seen }

/-- A scanner searches on from where it stands; a run has at least one byte. -/
theorem scan_passed {runLength : Nat} {seen : Bytes}
    (quiet : Run.start.Quiet (max runLength 1) seen) (unseen : Bytes) :
    (passed runLength seen).scan (seen ++ unseen) =
      match firstRun? (max runLength 1) (seen ++ unseen) with
      | none => (none, passed runLength (seen ++ unseen))
      | some (kind, next) =>
        (some ⟨kind, next - max runLength 1, next⟩, passed runLength []) := by
  -- No bytes are left out.
  have found := @scan_paused runLength 0 seen quiet unseen
  rw [List.drop_zero] at found
  cases first : firstRun? (max runLength 1) (seen ++ unseen) with
  | none =>
    rw [first] at found
    exact found
  | some answer =>
    rw [first] at found
    simp only [Nat.zero_add] at found
    exact found

/-- A fresh forward scanner finds the first full run. -/
theorem scan_ofRunLength (runLength : Nat) (stream : Bytes) :
    ((ofRunLength runLength).scan stream).1 =
      (firstRun? (max runLength 1) stream).map fun found =>
        ⟨found.1, found.2 - max runLength 1, found.2⟩ := by
  -- A fresh scanner has passed nothing.
  have fresh : ofRunLength runLength = passed runLength [] := rfl
  have quiet : Run.start.Quiet (max runLength 1) [] := trivial
  have found := scan_passed quiet stream
  rw [List.nil_append] at found
  rw [fresh, found]
  cases firstRun? (max runLength 1) stream with
  | none => rfl
  | some first => rfl

end Scanner

end SentinelRounds
