import Mathlib.Data.Set.Basic
import Mathlib.Order.Bounds.Defs
import SentinelRounds.Proofs.Frame.Search

/-! A forward search that is handed a growing buffer finds what a single search of it would find. -/

namespace SentinelRounds

namespace Scanner

/-- Whether so many bytes of one closing value stand in a row from an index on. -/
def RunFrom (runLength : Nat) (bytes : Bytes) (index : Nat) (kind : Markup) : Prop :=
  kind.closes = true ∧ List.replicate runLength kind.byte <+: bytes.drop index

/-- Where the runs of some bytes end that lie at or after an offset. -/
def stops (runLength offset : Nat) (bytes : Bytes) : Set Nat :=
  { stop | ∃ index kind, offset ≤ index ∧ RunFrom runLength bytes index kind ∧
    stop = index + runLength }

/-- The scanner after it has been handed some buffers one after another. -/
def handed (scanner : Scanner) (buffers : List Bytes) : Scanner :=
  buffers.foldl (fun scanner buffer => (scanner.scan buffer).2) scanner

/-- The bytes from an offset up to the end of a run after it end in that run. -/
theorem RunFrom.suffix {runLength offset index : Nat} {bytes : Bytes} {kind : Markup}
    (run : RunFrom runLength bytes index kind) (after : offset ≤ index) :
    List.replicate runLength kind.byte <:+
      (bytes.drop offset).take (index - offset + runLength) := by
  -- The run is what the last so many of these bytes are.
  have here : (bytes.drop offset).drop (index - offset) = bytes.drop index := by
    rw [List.drop_drop, Nat.add_sub_cancel' after]
  have row := List.prefix_iff_eq_take.mp run.2
  rw [List.length_replicate] at row
  rw [List.take_add, here, ← row]
  exact List.suffix_append _ _

/-- Bytes without a full run from an offset on have no run that ends anywhere after it. -/
theorem stops_eq_empty_iff {runLength : Nat} (positive : 0 < runLength) {offset : Nat}
    {bytes : Bytes} :
    stops runLength offset bytes = ∅ ↔ Run.start.Quiet runLength (bytes.drop offset) := by
  -- Both sides say that no run ends anywhere after the offset.
  rw [Set.eq_empty_iff_forall_notMem]
  constructor
  · -- Bytes up to which a run ends have a run that starts so much earlier.
    intro none
    refine (Run.quiet_start_iff positive _).mpr fun count kind closes ends => ?_
    obtain ⟨front, shape⟩ := ends
    refine none (offset + front.length + runLength)
      ⟨offset + front.length, kind, Nat.le_add_right _ _, ⟨closes, ?_⟩, rfl⟩
    rw [← List.drop_drop]
    have split := List.take_append_drop count (bytes.drop offset)
    rw [← shape, List.append_assoc] at split
    rw [← split, List.drop_left]
    exact List.prefix_append _ _
  · -- A run after the offset would end somewhere in the quiet bytes.
    rintro quiet stop ⟨index, kind, after, run, rfl⟩
    exact (Run.quiet_start_iff positive _).mp quiet _ kind run.1 (run.suffix after)

/-- No full run is found from an offset on exactly if none ends after it. -/
theorem firstRun?_drop_eq_none_iff {runLength : Nat} (positive : 0 < runLength) {offset : Nat}
    {bytes : Bytes} :
    firstRun? runLength (bytes.drop offset) = none ↔ stops runLength offset bytes = ∅ :=
  (firstRun?_eq_none_iff positive).trans (stops_eq_empty_iff positive).symm

/-- The first full run from an offset on ends at the least index at which any run ends. -/
theorem isLeast_stops {runLength : Nat} (positive : 0 < runLength) {offset : Nat} {bytes : Bytes}
    {kind : Markup} {next : Nat}
    (found : firstRun? runLength (bytes.drop offset) = some (kind, next)) :
    IsLeast (stops runLength offset bytes) (offset + next) ∧
      RunFrom runLength bytes (offset + next - runLength) kind := by
  -- What is found is a full run with quiet bytes in front of it.
  obtain ⟨before, after, shape, rfl, closes, quiet, full⟩ := firstRun?_eq_some positive found
  -- The bytes up to the end of the run end in it, so it starts a run's length earlier.
  obtain ⟨front, row⟩ := Run.suffix_of_full positive closes full
  have length := congrArg List.length row
  simp only [List.length_append, List.length_replicate, List.length_singleton] at length
  have start : offset + (before.length + 1) - runLength = offset + front.length := by omega
  have run : RunFrom runLength bytes (offset + front.length) kind := by
    refine ⟨closes, ?_⟩
    rw [← List.drop_drop, shape, List.append_cons, ← row, List.append_assoc, List.drop_left]
    exact List.prefix_append _ _
  rw [start]
  refine ⟨⟨⟨offset + front.length, kind, Nat.le_add_right _ _, run, by omega⟩, ?_⟩, run⟩
  -- A run that ended earlier would end in the quiet bytes before.
  rintro stop ⟨index, other, beyond, earlier, rfl⟩
  refine Nat.le_of_not_lt fun sooner => ?_
  have suffix := earlier.suffix beyond
  rw [shape, List.take_append_of_le_length (by omega)] at suffix
  exact (Run.quiet_start_iff positive before).mp quiet _ other earlier.1 suffix

/-- A scanner that has searched the beginning of a stream goes on in a longer beginning of it. -/
theorem scan_take {runLength : Nat} (positive : 1 ≤ runLength) {offset last count : Nat}
    (stream : Bytes) (grown : last ≤ count)
    (without : stops runLength offset (stream.take last) = ∅) :
    (paused runLength offset (stream.take last)).scan (stream.take count) =
      match firstRun? runLength ((stream.take count).drop offset) with
      | none => (none, paused runLength offset (stream.take count))
      | some (kind, next) =>
        (some ⟨kind, offset + next - runLength, offset + next⟩, startingAt runLength offset) := by
  -- A scanner that has searched in vain stands at the end of what it has seen.
  have length : max runLength 1 = runLength := by omega
  have quiet := (stops_eq_empty_iff positive).mp without
  -- The longer beginning is the shorter one with more bytes behind it.
  have whole : stream.take last ++ (stream.take count).drop last = stream.take count := by
    have front : stream.take last = (stream.take count).take last := by
      rw [List.take_take, Nat.min_eq_left grown]
    rw [front, List.take_append_drop]
  rw [← length] at quiet
  have scanned := scan_paused quiet ((stream.take count).drop last)
  rw [whole, length] at scanned
  exact scanned

/-- A scanner that has had no success stands at the end of the longest buffer it was handed. -/
theorem handed_eq_paused {runLength : Nat} (positive : 1 ≤ runLength) (offset : Nat)
    (stream : Bytes) {counts : List Nat} (ordered : counts.Pairwise (· ≤ ·))
    (without : ∀ count ∈ counts, stops runLength offset (stream.take count) = ∅) :
    ∃ last, (startingAt runLength offset).handed (counts.map stream.take) =
        paused runLength offset (stream.take last) ∧
      stops runLength offset (stream.take last) = ∅ ∧
      ∀ count, (∀ other ∈ counts, other ≤ count) → last ≤ count := by
  -- The last buffer handed over is the longest one.
  induction counts using List.reverseRecOn with
  | nil =>
    refine ⟨0, ?_, (stops_eq_empty_iff positive).mpr ?_, fun count _ => Nat.zero_le count⟩
    · simp [handed, paused, startingAt, ofRunLength]
    · rw [List.take_zero, List.drop_nil]
      trivial
  | append_singleton counts count ih =>
    obtain ⟨sorted, _, above⟩ := List.pairwise_append.mp ordered
    -- The buffers before are handed over without a find.
    obtain ⟨last, stands, none, least⟩ :=
      ih sorted fun other member => without other (List.mem_append_left _ member)
    have grown : last ≤ count := least count fun other member =>
      above other member count (List.mem_singleton.mpr rfl)
    -- The last buffer is no shorter, and there is no find in it either.
    have here := without count (List.mem_append_right _ (List.mem_singleton.mpr rfl))
    refine ⟨count, ?_, here, fun bound all => all count (by simp)⟩
    have scanned := scan_take positive stream grown none
    rw [(firstRun?_drop_eq_none_iff positive).mpr here] at scanned
    simp only [handed, List.map_append, List.foldl_append] at stands ⊢
    rw [stands]
    exact congrArg Prod.snd scanned

/--
A forward scanner is handed longer and longer beginnings of a stream. While none of them has a run
at or after the offset, it finds nothing and comes to stand at the end of each; in the first that
has one it finds the run that ends first in the stream, and is as fresh as at the start afterwards.
-/
theorem scan_beginnings {runLength : Nat} (positive : 1 ≤ runLength) (offset : Nat) (stream : Bytes)
    {earlier : List Nat} {count : Nat} (ordered : (earlier ++ [count]).Pairwise (· ≤ ·))
    (without : ∀ past ∈ earlier, stops runLength offset (stream.take past) = ∅) :
    let scanner := (startingAt runLength offset).handed (earlier.map stream.take)
    let seen := stream.take count
    let result := scanner.scan seen
    (stops runLength offset seen = ∅ → result.1 = none ∧ result.2.cursor = seen.length) ∧
    (stops runLength offset seen ≠ ∅ → ∃ kind next,
      result.1 = some ⟨kind, next - runLength, next⟩ ∧
      IsLeast (stops runLength offset stream) next ∧
      RunFrom runLength stream (next - runLength) kind ∧
      result.2 = startingAt runLength offset) := by
  -- After all the beginnings so far the scanner is one that is paused.
  intro scanner seen result
  obtain ⟨sorted, _, above⟩ := List.pairwise_append.mp ordered
  obtain ⟨last, stands, none, least⟩ := handed_eq_paused positive offset stream sorted without
  have grown : last ≤ count := least count fun other member =>
    above other member count (List.mem_singleton.mpr rfl)
  have scanned : result = _ := (congrArg (scan · seen) stands).trans
    (scan_take positive stream grown none)
  cases found : firstRun? runLength (seen.drop offset) with
  | none =>
    -- Then there is no run in what has been handed over so far.
    have empty := (firstRun?_drop_eq_none_iff positive).mp found
    rw [found] at scanned
    exact ⟨fun _ => by rw [scanned]; exact ⟨rfl, rfl⟩, fun some => absurd empty some⟩
  | some first =>
    obtain ⟨kind, next⟩ := first
    have within := isLeast_stops positive found
    rw [found] at scanned
    refine ⟨fun empty => absurd within.1.1 (by rw [empty]; exact id), fun _ => ?_⟩
    -- The bytes that are still to come do not change where the first run ends.
    have whole : stream.drop offset = seen.drop offset ++
        (stream.drop count).drop (offset - seen.length) := by
      rw [← List.drop_append, List.take_append_drop]
    have same := firstRun?_append positive found ((stream.drop count).drop (offset - seen.length))
    rw [← whole] at same
    obtain ⟨ends, run⟩ := isLeast_stops positive same
    exact ⟨kind, offset + next, by rw [scanned], ends, run, by rw [scanned]⟩

/-- A run that starts before the offset, and then one that is handed over in two pieces. -/
theorem scan_beginnings_straddling :
    let stream : Bytes := [4, 4, 4, 0x17, 0x17, 0x17, 1]
    let scanner := (startingAt 3 1).handed ([0, 2, 5, 5].map stream.take)
    1 ≤ 3 ∧ ([0, 2, 5, 5] ++ [7]).Pairwise (· ≤ ·) ∧
      (∀ past ∈ [0, 2, 5, 5], stops 3 1 (stream.take past) = ∅) ∧
      stops 3 1 (stream.take 7) ≠ ∅ ∧
      ∃ kind next, (scanner.scan (stream.take 7)).1 = some ⟨kind, next - 3, next⟩ ∧
        IsLeast (stops 3 1 stream) next ∧ RunFrom 3 stream (next - 3) kind ∧
        (scanner.scan (stream.take 7)).2 = startingAt 3 1 := by
  -- No beginning but the last has a run that ends after the offset.
  intro stream scanner
  have ordered : ([0, 2, 5, 5] ++ [7]).Pairwise (· ≤ ·) := by decide
  have searched : ∀ past ∈ [0, 2, 5, 5], firstRun? 3 ((stream.take past).drop 1) = none := by decide
  have without : ∀ past ∈ [0, 2, 5, 5], stops 3 1 (stream.take past) = ∅ :=
    fun past member => (firstRun?_drop_eq_none_iff (by decide)).mp (searched past member)
  have some : stops 3 1 (stream.take 7) ≠ ∅ := by
    rw [Ne, ← firstRun?_drop_eq_none_iff (by decide)]
    decide
  exact ⟨by decide, ordered, without, some,
    (scan_beginnings (by decide) 1 stream ordered without).2 some⟩

end Scanner

end SentinelRounds
