import Mathlib.Data.List.Forall2
import SentinelRounds.Proofs.Net.Fetch

/-! Reading frame after frame: what is read depends on the stream and not on its pieces. -/

namespace SentinelRounds

/-- What the user of a link does next. -/
inductive Reader.Move
  /-- Prepares for the next round. -/
  | reset
  /-- Reads a frame of a phase. -/
  | read (phase : Phase)
  deriving DecidableEq, Repr

/-- A user of a link who reads frame after frame, up to the first fault. -/
structure Reader (ι : Type) where
  link : Link ι
  /-- The pieces of the stream that are still to arrive. -/
  arriving : List Bytes
  /-- The call under way, if there is one. -/
  call : Option Call
  moves : List Reader.Move
  /-- What the calls so far came to. -/
  results : List (Except LinkFault Round.Inbound)

namespace Reader

variable {ι : Type}

/-- A user of a fresh link. -/
def opened (id : Nat) (role : Role) (socket : Nat) (identity : Identity) (settings : Settings)
    (arriving : List Bytes) (moves : List Move) : Reader ι :=
  { link := .opened id role socket identity settings, arriving, call := none, moves, results := [] }

/-- One step of the user, or of the call under way. -/
def step (reader : Reader ι) : Option (Reader ι) :=
  match reader.call with
  | none =>
    match reader.moves with
    | [] => none
    | .reset :: moves => some { reader with link := reader.link.reset, moves }
    | .read phase :: moves => some { reader with call := some (.search phase []), moves }
  | some (.absorb _ inbound) =>
    some { reader with call := none, results := reader.results ++ [.ok inbound] }
  | some (.halt fault) =>
    -- Nothing is read after a fault.
    some { reader with call := none, moves := [], results := reader.results ++ [.error fault] }
  | some call =>
    (Fetch.step ⟨call, reader.link, reader.arriving⟩).map fun fetch =>
      { reader with call := some fetch.call, link := fetch.link, arriving := fetch.arriving }

/-- What the calls so far came to, with the frame or the fault that is at hand. -/
def answers (reader : Reader ι) : List (Except LinkFault Round.Inbound) :=
  reader.results ++ match reader.call with
    | some (.absorb _ inbound) => [.ok inbound]
    | some (.halt fault) => [.error fault]
    | _ => []

/-- The bytes received into the buffers of both phases. -/
def buffered (reader : Reader ι) : Bytes :=
  let intake := reader.link.round.context.intake
  intake.header.buffer.filled ++ intake.message.buffer.filled

/-- The bytes that have been read into free space and not yet been counted as received. -/
def arrived (reader : Reader ι) : Bytes :=
  match reader.call with
  | some (.search _ arrived) => arrived
  | _ => []

/-- The bytes that wait to enter a lane. -/
def pending (reader : Reader ι) : Bytes := reader.link.round.context.intake.pending

end Reader

namespace Settings

/-- What some moves come to on a stream. -/
def expected (settings : Settings) : List Reader.Move → Bytes → List (Except LinkFault Round.Inbound)
  | [], _ => []
  | .reset :: moves, stream => settings.expected moves stream
  | .read phase :: moves, stream =>
    match settings.outcome phase stream with
    | .ok inbound =>
      .ok inbound :: settings.expected moves (stream.drop (settings.taken phase stream))
    | .error fault => [.error fault]

/--
The bytes, terminator included, that a call took off the stream: a frame as it was returned, a frame
that cannot be read, or none.
-/
def Raw (settings : Settings) (result : Except LinkFault Round.Inbound) (raw : Bytes) : Prop :=
  let runLength := max settings.runLength 1
  match result with
  | .ok inbound => Scanner.firstRun? runLength raw = some (inbound.kind, raw.length) ∧
    Escape.decode settings.runLength (raw.take (raw.length - runLength)) = .ok inbound.frame
  | .error (.round _) => ∃ kind offset, Scanner.firstRun? runLength raw = some (kind, raw.length) ∧
    Escape.decode settings.runLength (raw.take (raw.length - runLength)) = .error offset
  | .error _ => raw = []

/-- What a call takes off a stream is what goes with its result. -/
theorem raw_taken (settings : Settings) (phase : Phase) (stream : Bytes) :
    settings.Raw (settings.outcome phase stream)
      (stream.take (settings.taken phase stream)) := by
  -- There is a frame in the stream, or there is none.
  cases located : settings.locate phase stream with
  | none =>
    -- Nothing is taken, and the fault has no frame.
    rw [taken, outcome, located]
    simp only
    split
    · rfl
    · rfl
  | some first =>
    obtain ⟨kind, next⟩ := first
    obtain ⟨_, within⟩ := locate_bounds located
    -- The bytes taken end with the run that was located.
    have length : (stream.take next).length = next := by
      rw [List.length_take]
      omega
    have found : Scanner.firstRun? (max settings.runLength 1) (stream.take next) =
        some (kind, next) := by
      rw [locate, Option.filter_eq_some_iff] at located
      rw [Scanner.firstRun?_take (by omega), located.1]
      simp [Option.filter]
    have front : (stream.take next).take (next - max settings.runLength 1) =
        stream.take (next - max settings.runLength 1) := by
      rw [List.take_take, Nat.min_eq_left (Nat.sub_le _ _)]
    rw [outcome_of_located located, taken, located]
    simp only
    cases decoded : Escape.decode settings.runLength
        (stream.take (next - max settings.runLength 1)) with
    | ok frame =>
      simp only [Raw, length, front, decoded, found, and_self]
    | error offset =>
      simp only [Raw, length, front, decoded]
      exact ⟨kind, offset, found, rfl⟩

end Settings

namespace Reader

variable {ι : Type}

/--
The part of a stream that has not been taken by results is in the lanes, in the queue or still to
arrive, and the moves that are left come to the rest of what is expected.
-/
def Keeps (settings : Settings) (planned : List Move) (stream : Bytes) (reader : Reader ι) : Prop :=
  ∃ raws rest, List.Forall₂ settings.Raw reader.results raws ∧ raws.flatten ++ rest = stream ∧
    match reader.call with
    | none => (∀ piece ∈ reader.arriving, piece ≠ []) ∧
      ∃ held pending, reader.link.round.context.intake.Holds settings held pending ∧
        held .header ++ held .message ++ pending ++ reader.arriving.flatten = rest ∧
        (reader.moves ≠ [] → held = fun _ => []) ∧
        settings.expected planned stream =
          reader.results ++ settings.expected reader.moves rest
    | some call => ∃ phase origin,
      Fetch.Stands settings phase rest origin ⟨call, reader.link, reader.arriving⟩ ∧
        settings.expected planned stream =
          reader.results ++ settings.expected (.read phase :: reader.moves) rest

/-- One phase holds what the lanes hold together. -/
theorem only_lanes (phase : Phase) (held : Bytes) :
    Intake.only phase held .header ++ Intake.only phase held .message = held := by
  cases phase <;> simp [Intake.only]

/-- The buffers have received what the lanes hold. -/
theorem buffered_eq {settings : Settings} {held : Phase → Bytes} {pending : Bytes}
    {reader : Reader ι} (holds : reader.link.round.context.intake.Holds settings held pending) :
    reader.buffered = held .header ++ held .message := by
  -- Each of the two buffers holds what its lane holds.
  have header := (holds.lane .header).filled
  have message := (holds.lane .message).filled
  rw [← header, ← message]
  rfl

/-- A step of the call under way is a step of its user. -/
theorem step_call (reader : Reader ι) {call : Call} {fetch : Fetch ι}
    (under : reader.call = some call)
    (went : Fetch.step ⟨call, reader.link, reader.arriving⟩ = some fetch) :
    reader.step = some { reader with
      call := some fetch.call, link := fetch.link, arriving := fetch.arriving } := by
  -- The user leaves the step to the call.
  rw [Reader.step, under]
  -- The two calls that the user ends take no step of their own.
  cases call with
  | absorb phase inbound => cases went
  | halt fault => cases went
  | _ => simp only [went, Option.map_some]

/-- A step of the user, or of a call, keeps every byte of the stream in its place. -/
theorem Keeps.step {settings : Settings} {planned : List Move} {stream : Bytes}
    {reader after : Reader ι} (keeps : reader.Keeps settings planned stream)
    (moved : reader.step = some after) : after.Keeps settings planned stream := by
  -- The user is between two calls, or at one.
  obtain ⟨raws, rest, taken, whole, stage⟩ := keeps
  obtain ⟨link, arriving, call, moves, results⟩ := reader
  cases call with
  | none =>
    -- Between two calls, the user resets or starts the next call.
    obtain ⟨filled, held, pending, holds, shape, idle, expected⟩ := stage
    cases moves with
    | nil => cases moved
    | cons move moves =>
      obtain rfl := idle (List.cons_ne_nil _ _)
      cases move with
      | reset =>
        cases moved
        exact ⟨raws, rest, taken, whole, filled, _, _, holds.rewind, shape, fun _ => rfl, expected⟩
      | read phase =>
        cases moved
        refine ⟨raws, rest, taken, whole, phase, link, ⟨filled, ?_⟩, expected⟩
        refine ⟨_, _, [], _, link.fed_self.symm, ?_, rfl, Nat.zero_le _, .inl rfl, shape⟩
        rw [Intake.only_nil]
        exact holds
  | some call =>
    obtain ⟨phase, origin, stands, expected⟩ := stage
    simp only at stands expected
    cases went : Fetch.step ⟨call, link, arriving⟩ with
    | some fetch =>
      -- The call goes on.
      have still := (stands.step went).1
      have same := step_call ⟨link, arriving, some call, moves, results⟩ rfl went
      rw [same, Option.some.injEq] at moved
      subst moved
      exact ⟨raws, rest, taken, whole, phase, origin, still, expected⟩
    | none =>
      -- The call has come to what the rest of the stream comes to.
      have came := stands.ended went
      have raw := settings.raw_taken phase rest
      obtain ⟨filled, intake, stats, held, pending, linked, holds, knows⟩ := stands
      simp only at came filled linked knows
      subst linked came
      rw [Settings.expected] at expected
      have together : (raws ++ [rest.take (settings.taken phase rest)]).flatten ++
          rest.drop (settings.taken phase rest) = stream := by
        rw [List.flatten_append, List.flatten_singleton, List.append_assoc,
          List.take_append_drop, whole]
      have all : List.Forall₂ settings.Raw (results ++ [settings.outcome phase rest])
          (raws ++ [rest.take (settings.taken phase rest)]) :=
        List.rel_append taken (.cons raw .nil)
      cases outcome : settings.outcome phase rest with
      | ok inbound =>
        rw [outcome] at knows all expected moved
        -- With a frame taken, the rest of the stream is what follows it.
        obtain ⟨_, rfl, _, shape⟩ := knows
        cases moved
        rw [Intake.only_nil] at holds
        refine ⟨_, _, all, together, filled, _, _, holds, shape, fun _ => rfl, ?_⟩
        rw [expected, List.append_assoc]
        rfl
      | error fault =>
        rw [outcome] at knows all expected moved
        -- A fault takes the frame that caused it, if there is one, and ends the reading.
        obtain ⟨_, shape⟩ := knows
        cases moved
        refine ⟨_, _, all, together, filled, _, _, holds, ?_, fun some => absurd rfl some, ?_⟩
        · rw [only_lanes]
          exact shape
        · rw [expected, Settings.expected, List.append_nil]

/-- How far a user can still be from the last result. -/
def rank (reader : Reader ι) : Nat :=
  4 * reader.moves.length + match reader.call with
    | none => Fetch.rank ⟨.succeeded, reader.link, reader.arriving⟩
    | some call => Fetch.rank ⟨call, reader.link, reader.arriving⟩ + 1

/-- Every step brings the user closer to the last result. -/
theorem Keeps.rank_lt {settings : Settings} {planned : List Move} {stream : Bytes}
    {reader after : Reader ι} (keeps : reader.Keeps settings planned stream)
    (moved : reader.step = some after) : after.rank < reader.rank := by
  -- The user is between two calls, or at one.
  obtain ⟨raws, rest, _, _, stage⟩ := keeps
  obtain ⟨link, arriving, call, moves, results⟩ := reader
  cases call with
  | none =>
    -- A move is used up, and starting a call costs less than a move.
    cases moves with
    | nil => cases moved
    | cons move moves =>
      cases move with
      | reset =>
        cases moved
        simp only [rank, Fetch.rank, List.length_cons]
        omega
      | read phase =>
        cases moved
        simp only [rank, Fetch.rank, List.length_cons]
        omega
  | some call =>
    obtain ⟨phase, origin, stands, _⟩ := stage
    simp only at stands
    cases went : Fetch.step ⟨call, link, arriving⟩ with
    | some fetch =>
      -- A call under way comes closer to its own end.
      have closer : Fetch.rank ⟨fetch.call, fetch.link, fetch.arriving⟩ <
          Fetch.rank ⟨call, link, arriving⟩ := (stands.step went).2
      have same := step_call ⟨link, arriving, some call, moves, results⟩ rfl went
      rw [same, Option.some.injEq] at moved
      subst moved
      simp only [rank]
      omega
    | none =>
      -- A call that is over is noted, and there is one call less.
      have came := stands.ended went
      simp only at came
      subst came
      cases outcome : settings.outcome phase rest with
      | ok inbound =>
        rw [outcome] at moved
        cases moved
        simp only [rank, Fetch.rank]
        omega
      | error fault =>
        rw [outcome] at moved
        cases moved
        simp only [rank, Fetch.rank, List.length_nil]
        omega

/-- What is at hand comes next in what is expected, and every byte of the stream is in its place. -/
theorem Keeps.accounts {settings : Settings} {planned : List Move} {stream : Bytes}
    {reader : Reader ι} (keeps : reader.Keeps settings planned stream) :
    reader.answers <+: settings.expected planned stream ∧
      ∃ raws, List.Forall₂ settings.Raw reader.answers raws ∧
        raws.flatten ++ reader.buffered ++ reader.arrived ++ reader.pending ++
          reader.arriving.flatten = stream := by
  -- The user is between two calls, or at one.
  obtain ⟨raws, rest, taken, whole, stage⟩ := keeps
  obtain ⟨link, arriving, call, moves, results⟩ := reader
  cases call with
  | none =>
    -- Between two calls, what the lanes hold and the queue are the front of the rest.
    obtain ⟨_, held, pending, holds, shape, _, expected⟩ := stage
    simp only [answers, List.append_nil]
    refine ⟨⟨_, expected.symm⟩, raws, taken, ?_⟩
    rw [buffered_eq holds, Reader.pending, holds.pending, ← whole, ← shape]
    simp only [arrived, List.append_nil, List.append_assoc]
  | some call =>
    obtain ⟨phase, origin, stands, expected⟩ := stage
    obtain ⟨filled, intake, stats, held, pending, linked, holds, knows⟩ := stands
    simp only at linked knows holds expected
    subst linked
    -- The lanes and the queue, whatever the call is about.
    have lanes : ∀ call,
        Reader.buffered ⟨origin.fed intake stats, arriving, call, moves, results⟩ = held := by
      intro call
      rw [buffered_eq holds, only_lanes]
    have queue : ∀ call,
        Reader.pending ⟨origin.fed intake stats, arriving, call, moves, results⟩ = pending :=
      fun _ => holds.pending
    have raw := settings.raw_taken phase rest
    have all : List.Forall₂ settings.Raw (results ++ [settings.outcome phase rest])
        (raws ++ [rest.take (settings.taken phase rest)]) :=
      List.rel_append taken (.cons raw .nil)
    rw [Settings.expected] at expected
    cases call with
    | search there arrived =>
      -- The bytes just read stand between the lanes and the queue.
      obtain ⟨_, _, _, shape⟩ := knows
      simp only [answers, List.append_nil]
      refine ⟨⟨_, expected.symm⟩, raws, taken, ?_⟩
      rw [lanes, queue, ← whole, ← shape]
      simp only [Reader.arrived, List.append_assoc]
    | await there spare =>
      -- A call that waits has an empty queue.
      obtain ⟨_, rfl, _, _, shape⟩ := knows
      simp only [answers, List.append_nil]
      refine ⟨⟨_, expected.symm⟩, raws, taken, ?_⟩
      rw [lanes, queue, ← whole, ← shape]
      simp only [Reader.arrived, List.append_nil, List.append_assoc]
    | absorb there inbound =>
      -- A frame at hand counts as taken already.
      obtain ⟨_, rfl, outcome, shape⟩ := knows
      rw [outcome] at expected all
      simp only [answers]
      refine ⟨⟨_, (expected.trans (List.append_cons _ _ _)).symm⟩, _, all, ?_⟩
      rw [lanes, queue, ← whole]
      simp only [Reader.arrived, List.append_nil, List.flatten_append, List.flatten_singleton,
        List.append_assoc, shape, List.take_append_drop]
    | halt fault =>
      -- So does the frame of a fault.
      obtain ⟨outcome, shape⟩ := knows
      rw [outcome] at expected all
      simp only [answers]
      refine ⟨⟨[], by rw [List.append_nil]; exact expected.symm⟩, _, all, ?_⟩
      rw [List.append_assoc held] at shape
      rw [lanes, queue, ← whole]
      simp only [Reader.arrived, List.append_nil, List.flatten_append, List.flatten_singleton,
        List.append_assoc, shape, List.take_append_drop]
    | _ => exact absurd knows id

/-- A user who can do nothing more has come to all that is expected. -/
theorem Keeps.finished {settings : Settings} {planned : List Move} {stream : Bytes}
    {reader : Reader ι} (keeps : reader.Keeps settings planned stream)
    (stuck : reader.step = none) : reader.results = settings.expected planned stream := by
  -- The user is between two calls, or at one.
  obtain ⟨raws, rest, _, _, stage⟩ := keeps
  obtain ⟨link, arriving, call, moves, results⟩ := reader
  cases call with
  | none =>
    obtain ⟨_, _, _, _, _, _, expected⟩ := stage
    -- A user with moves left can always make the next one.
    cases moves with
    | nil => rw [expected, Settings.expected, List.append_nil]
    | cons move moves => cases move <;> cases stuck
  | some call =>
    -- A call that has come to an end is noted by its user.
    obtain ⟨phase, origin, stands, _⟩ := stage
    simp only at stands
    cases went : Fetch.step ⟨call, link, arriving⟩ with
    | some fetch =>
      have same := step_call ⟨link, arriving, some call, moves, results⟩ rfl went
      rw [same] at stuck
      cases stuck
    | none =>
      have came := stands.ended went
      simp only at came
      subst came
      cases outcome : settings.outcome phase rest with
      | ok inbound =>
        rw [outcome] at stuck
        cases stuck
      | error fault =>
        rw [outcome] at stuck
        cases stuck

/-- A user of a fresh link has the whole stream before it. -/
theorem keeps_opened (id : Nat) (role : Role) (socket : Nat) (identity : Identity)
    (settings : Settings) {pieces : List Bytes} (filled : ∀ piece ∈ pieces, piece ≠ [])
    (moves : List Move) :
    (opened id role socket identity settings pieces moves : Reader ι).Keeps settings moves
      pieces.flatten :=
  ⟨[], pieces.flatten, .nil, rfl, filled, fun _ => [], [], Intake.holds_ofSettings settings, rfl,
    fun _ => rfl, rfl⟩

/--
Reading frame after frame comes to what the stream as a whole comes to, in whatever pieces it
arrives: every call returns the first frame of the bytes that the calls before it have left, or the
fault that these bytes hold, and at every moment the frames taken so far, with their terminators,
and then the lanes, the bytes just read, the queue and the bytes still to arrive are the stream.
-/
theorem results_of_stream (id : Nat) (role : Role) (socket : Nat) (identity : Identity)
    (settings : Settings) (pieces : List Bytes) (filled : ∀ piece ∈ pieces, piece ≠ [])
    (moves : List Move) :
    let stream := pieces.flatten
    let first : Reader ι := opened id role socket identity settings pieces moves
    (∃ last, Reaches Reader.step first last ∧ last.step = none ∧
      last.results = settings.expected moves stream) ∧
    ∀ reader, Reaches Reader.step first reader →
      reader.answers <+: settings.expected moves stream ∧
      ∃ raws, List.Forall₂ settings.Raw reader.answers raws ∧
        raws.flatten ++ reader.buffered ++ reader.arrived ++ reader.pending ++
          reader.arriving.flatten = stream := by
  -- What a user keeps holds of a fresh link, and every step brings the last result closer.
  intro stream first
  have initially : first.Keeps settings moves stream :=
    keeps_opened id role socket identity settings filled moves
  refine ⟨?_, fun reader reached => ?_⟩
  · obtain ⟨last, reached, stuck, keeps⟩ := Reaches.ends rank
      (fun _ _ keeps moved => ⟨keeps.step moved, keeps.rank_lt moved⟩) initially
    refine ⟨last, reached, stuck, ?_⟩
    exact keeps.finished stuck
  · exact (reached.invariant (fun _ _ keeps moved => Keeps.step keeps moved) initially).accounts

/-- Two frames whose terminators straddle the pieces, and then the end of the stream. -/
theorem results_of_stream_straddling :
    let settings : Settings := { headerCapacity := 4, messageCapacity := 3, runLength := 2 }
    let pieces : List Bytes := [[1, 0x04], [0x04, 2, 0x17], [0x17]]
    let first : Reader Unit := opened 1 .server 1 {} settings pieces
      [.read .header, .reset, .read .message, .read .message]
    (∀ piece ∈ pieces, piece ≠ []) ∧
      ∃ last, Reaches Reader.step first last ∧
        last.results = [.ok ⟨[1], .final⟩, .ok ⟨[2], .block⟩, .error .closed] := by
  -- The results are computed from the stream as a whole.
  intro settings pieces first
  have filled : ∀ piece ∈ pieces, piece ≠ [] := by decide
  obtain ⟨⟨last, reached, _, results⟩, _⟩ := results_of_stream 1 .server 1 {} settings pieces filled
    [.read .header, .reset, .read .message, .read .message]
  exact ⟨filled, last, reached, results.trans (by decide +kernel)⟩

end Reader

end SentinelRounds
