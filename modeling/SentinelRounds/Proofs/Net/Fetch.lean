import SentinelRounds.Net.Call
import SentinelRounds.Proofs.Round.Intake
import SentinelRounds.Proofs.Steps

/-! Reading one frame of a phase from a stream that arrives in pieces. -/

namespace SentinelRounds

namespace Settings

/--
The first full run of a stream and the index after it, if the run ends within the receive buffer of
a phase; a run has at least one byte.
-/
def locate (settings : Settings) (phase : Phase) (stream : Bytes) : Option (Markup × Nat) :=
  (Scanner.firstRun? (max settings.runLength 1) stream).filter fun found =>
    found.2 ≤ settings.capacity phase

/-- What reading a frame of a phase comes to, given all bytes that will ever arrive. -/
def outcome (settings : Settings) (phase : Phase) (stream : Bytes) :
    Except LinkFault Round.Inbound :=
  match settings.locate phase stream with
  | some (kind, next) =>
    match Escape.decode settings.runLength (stream.take (next - max settings.runLength 1)) with
    | .ok frame => .ok ⟨frame, kind⟩
    | .error offset => .error (.round (.codec (.frame (.missingEscape offset))))
  | none => if settings.capacity phase ≤ stream.length then .error (.overflow phase)
    else .error .closed

/-- How many bytes of a stream go with its first frame. -/
def taken (settings : Settings) (phase : Phase) (stream : Bytes) : Nat :=
  match settings.locate phase stream with
  | some (_, next) => next
  | none => 0

/-- The bytes that fit the receive buffer are the ones that are searched. -/
theorem locate_eq (settings : Settings) (phase : Phase) (stream : Bytes) :
    settings.locate phase stream =
      Scanner.firstRun? (max settings.runLength 1) (stream.take (settings.capacity phase)) := by
  -- A run that ends within the first bytes is the first run of these bytes.
  rw [locate, Scanner.firstRun?_take (by omega)]

/-- A located frame lies within the stream. -/
theorem locate_bounds {settings : Settings} {phase : Phase} {stream : Bytes} {kind : Markup}
    {next : Nat} (found : settings.locate phase stream = some (kind, next)) :
    max settings.runLength 1 ≤ next ∧ next ≤ stream.length := by
  -- The place is that of the first full run.
  rw [locate, Option.filter_eq_some_iff] at found
  exact Scanner.firstRun?_bounds (by omega) found.1

/-- More bytes after a located frame do not change where it lies. -/
theorem locate_append {settings : Settings} {phase : Phase} {stream : Bytes} {kind : Markup}
    {next : Nat} (found : settings.locate phase stream = some (kind, next)) (rest : Bytes) :
    settings.locate phase (stream ++ rest) = some (kind, next) := by
  -- More bytes add no run before the first one.
  rw [locate, Option.filter_eq_some_iff] at found ⊢
  exact ⟨Scanner.firstRun?_append (by omega) found.1 rest, found.2⟩

/-- A located frame is read, or its escapes are not in order. -/
theorem outcome_of_located {settings : Settings} {phase : Phase} {stream : Bytes} {kind : Markup}
    {next : Nat} (found : settings.locate phase stream = some (kind, next)) :
    settings.outcome phase stream =
      match Escape.decode settings.runLength (stream.take (next - max settings.runLength 1)) with
      | .ok frame => .ok ⟨frame, kind⟩
      | .error offset => .error (.round (.codec (.frame (.missingEscape offset)))) := by
  rw [outcome, found]

/-- More bytes after a located frame do not change what reading it comes to. -/
theorem outcome_append {settings : Settings} {phase : Phase} {stream : Bytes} {kind : Markup}
    {next : Nat} (found : settings.locate phase stream = some (kind, next)) (rest : Bytes) :
    settings.outcome phase (stream ++ rest) = settings.outcome phase stream := by
  -- Frames lie within the bytes that locate them, terminator and all.
  obtain ⟨_, within⟩ := locate_bounds found
  rw [outcome_of_located (locate_append found rest), outcome_of_located found,
    List.take_append_of_le_length (Nat.le_trans (Nat.sub_le _ _) within)]

end Settings

namespace Link

variable {ι : Type}

/-- The link with another intake and other counts. -/
def fed (link : Link ι) (intake : Intake) (stats : Stats) : Link ι :=
  { link.onContext fun context => { context with intake } with stats }

@[simp] theorem intake_fed (link : Link ι) (intake : Intake) (stats : Stats) :
    (link.fed intake stats).round.context.intake = intake := rfl

/-- A link is itself with its own intake and counts. -/
theorem fed_self (link : Link ι) : link.fed link.round.context.intake link.stats = link := rfl

end Link

namespace Call

variable {ι : Type}

/-- Looking for a frame is a read of the intake, and all that it changes of a link is the intake. -/
theorem look_eq (phase : Phase) (arrived : Bytes) (link : Link ι) :
    look phase arrived link =
      match link.round.context.intake.receive phase arrived with
      | (.error offset, intake) =>
        (.halt (.round (.codec (.frame (.missingEscape offset)))), link.fed intake link.stats)
      | (.ok (some kind), intake) =>
        (.absorb phase ⟨(intake.lane phase).frame.getD [], kind⟩,
          link.fed (intake.takeFrame phase).2 link.stats)
      | (.ok none, intake) =>
        (if intake.spare phase = 0 then .halt (.overflow phase)
          else .await phase (intake.spare phase), link.fed intake link.stats) := by
  -- Looking is receiving, and what is received is told apart afterwards.
  rw [look, Context.read, Context.stage, ← Intake.receive]
  -- What the intake answers decides alone how the call goes on.
  generalize link.round.context.intake.receive phase arrived = found
  obtain ⟨found, intake⟩ := found
  cases found with
  | error offset => rfl
  | ok kind =>
    cases kind with
    | none => rfl
    | some kind => rfl

end Call

/--
What a read of at most so many bytes delivers of a stream in pieces, and what is then still to
arrive: the front of the next piece, or the end of the stream.
-/
def delivered (limit : Nat) : List Bytes → Reply × List Bytes
  | [] => (.ended, [])
  | piece :: later =>
    (.bytes (piece.take limit),
      if (piece.drop limit).isEmpty then later else piece.drop limit :: later)

/-- A read with room delivers some bytes of what is to arrive, if anything is. -/
theorem delivered_cons {limit : Nat} (positive : 0 < limit) {piece : Bytes} {later : List Bytes}
    (filled : ∀ one ∈ piece :: later, one ≠ []) :
    ∃ bytes rest, delivered limit (piece :: later) = (.bytes bytes, rest) ∧ bytes ≠ [] ∧
      bytes.length ≤ limit ∧ bytes ++ rest.flatten = (piece :: later).flatten ∧
      ∀ one ∈ rest, one ≠ [] := by
  -- As much of the first piece is delivered as there is room for.
  have some : piece ≠ [] := filled piece List.mem_cons_self
  refine ⟨_, _, rfl, ?_, List.length_take_le _ _, ?_, ?_⟩
  · -- With room for a byte, the front of a piece is not empty.
    simp only [ne_eq, List.take_eq_nil_iff, some, or_false]
    exact Nat.ne_of_gt positive
  · -- What is not delivered of the piece is still to arrive.
    split
    · rename_i whole
      rw [List.isEmpty_iff, List.drop_eq_nil_iff] at whole
      rw [List.take_of_length_le whole, List.flatten_cons]
    · rw [List.flatten_cons, ← List.append_assoc, List.take_append_drop, List.flatten_cons]
  · -- A piece that is cut leaves a rest that is not empty.
    intro one member
    split at member
    · exact filled one (List.mem_cons_of_mem _ member)
    · rename_i more
      rcases List.mem_cons.mp member with rfl | member
      · intro empty
        rw [empty] at more
        exact more rfl
      · exact filled one (List.mem_cons_of_mem _ member)

/-- A call that is after a frame, the link it is on, and the pieces still to arrive. -/
structure Fetch (ι : Type) where
  call : Call
  link : Link ι
  arriving : List Bytes

namespace Fetch

variable {ι : Type}

/-- One step towards a frame; none once it or a fault is at hand. -/
def step (fetch : Fetch ι) : Option (Fetch ι) :=
  match fetch.call with
  | .search phase arrived =>
    let (call, link) := Call.look phase arrived fetch.link
    some { fetch with call, link }
  | .await phase spare =>
    let (reply, arriving) := delivered spare fetch.arriving
    (Call.arrive phase reply fetch.link).map fun (call, link) => { call, link, arriving }
  | _ => none

/--
What a call that is after a frame of a stream knows of it, given the bytes its lane holds, the
queue, and the bytes still to arrive: whatever is at hand is what the stream as a whole comes to.
-/
def Knows (settings : Settings) (phase : Phase) (stream held pending unread : Bytes) :
    Call → Prop
  | .search there arrived => there = phase ∧
    held.length + arrived.length ≤ settings.capacity phase ∧ (arrived = [] ∨ pending = []) ∧
    held ++ arrived ++ pending ++ unread = stream
  | .await there spare => there = phase ∧ pending = [] ∧ 0 < spare ∧
    spare + held.length = settings.capacity phase ∧ held ++ unread = stream
  | .absorb there inbound => there = phase ∧ held = [] ∧
    settings.outcome phase stream = .ok inbound ∧
    pending ++ unread = stream.drop (settings.taken phase stream)
  | .halt fault => settings.outcome phase stream = .error fault ∧
    held ++ pending ++ unread = stream.drop (settings.taken phase stream)
  | _ => False

/--
A call that is after a frame of a stream, on a link that only its intake and its counts tell from
the one it began on.
-/
structure Stands (settings : Settings) (phase : Phase) (stream : Bytes) (origin : Link ι)
    (fetch : Fetch ι) : Prop where
  filled : ∀ piece ∈ fetch.arriving, piece ≠ []
  knows : ∃ intake stats held pending, fetch.link = origin.fed intake stats ∧
    intake.Holds settings (Intake.only phase held) pending ∧
    Knows settings phase stream held pending fetch.arriving.flatten fetch.call

/-- A look at what has arrived finds the frame of the stream, or leaves it to what is to come. -/
theorem stands_look {settings : Settings} {phase : Phase} {held arrived pending : Bytes}
    {origin : Link ι} {intake : Intake} {stats : Stats} {arriving : List Bytes}
    (filled : ∀ piece ∈ arriving, piece ≠ [])
    (holds : intake.Holds settings (Intake.only phase held) pending)
    (fits : held.length + arrived.length ≤ settings.capacity phase) {call : Call} {link : Link ι}
    (looked : Call.look phase arrived (origin.fed intake stats) = (call, link)) :
    Stands settings phase (held ++ arrived ++ pending ++ arriving.flatten) origin
      ⟨call, link, arriving⟩ := by
  -- The intake answers with what is to be found in the stream.
  have finds := holds.finds_receive fits
  rw [Call.look_eq, Link.intake_fed] at looked
  refine ⟨filled, ?_⟩
  generalize held ++ arrived ++ pending = stream at finds ⊢
  generalize intake.receive phase arrived = answer at finds looked
  obtain ⟨found, after⟩ := answer
  rw [Intake.Finds, ← settings.locate_eq] at finds
  cases located : settings.locate phase stream with
  | some first =>
    obtain ⟨kind, next⟩ := first
    obtain ⟨_, within⟩ := Settings.locate_bounds located
    rw [located] at finds
    -- The frame is complete, so nothing of the stream is in the lanes any more.
    obtain ⟨kept, finds⟩ := finds
    -- What follows the frame is the rest of the stream.
    have rest : stream.drop next ++ arriving.flatten =
        (stream ++ arriving.flatten).drop
          (settings.taken phase (stream ++ arriving.flatten)) := by
      rw [Settings.taken, Settings.locate_append located, List.drop_append_of_le_length within]
    have outcome := Settings.outcome_append located arriving.flatten
    rw [Settings.outcome_of_located located] at outcome
    cases decoded : Escape.decode settings.runLength
        (stream.take (next - max settings.runLength 1)) with
    | ok content =>
      rw [decoded] at finds
      obtain ⟨rfl, frame⟩ := finds
      cases looked
      refine ⟨_, _, [], _, rfl, kept.takeFrame phase, rfl, rfl, ?_, rest⟩
      simp only [outcome, decoded, frame]
      rfl
    | error offset =>
      rw [decoded] at finds
      obtain rfl := finds
      cases looked
      refine ⟨_, _, [], _, rfl, kept, ?_, rest⟩
      simp only [outcome, decoded]
  | none =>
    rw [located] at finds
    -- No run has been completed yet.
    obtain ⟨rfl, kept⟩ := finds
    have spare := kept.spare phase
    simp only [Intake.only, if_true] at spare
    simp only [Prod.mk.injEq] at looked
    obtain ⟨rfl, rfl⟩ := looked
    refine ⟨_, _, _, _, rfl, kept, ?_⟩
    rw [spare]
    split
    · -- The whole lane has been searched in vain, and more bytes would not fit it.
      rename_i full
      have long : settings.capacity phase ≤ stream.length := by
        rw [List.length_take] at full
        omega
      have none : settings.locate phase (stream ++ arriving.flatten) = none := by
        rw [Settings.locate_eq] at located ⊢
        rwa [List.take_append_of_le_length long]
      refine ⟨?_, ?_⟩
      · have reaches : settings.capacity phase ≤ (stream ++ arriving.flatten).length := by
          rw [List.length_append]
          omega
        rw [Settings.outcome, none]
        exact if_pos reaches
      · rw [Settings.taken, none, List.drop_zero, List.take_append_drop]
    · -- There is room for more, so the whole queue is in the lane.
      rename_i room
      have short : stream.length ≤ settings.capacity phase := by
        rw [List.length_take] at room
        omega
      have whole := List.take_of_length_le short
      rw [whole] at room ⊢
      exact ⟨rfl, List.drop_of_length_le short, by omega, by omega, rfl⟩

/-- How far a call can still be from a frame: every read takes bytes that are to arrive. -/
def rank (fetch : Fetch ι) : Nat :=
  2 * fetch.arriving.flatten.length + match fetch.call with
    | .search _ _ => 2
    | .await _ _ => 1
    | _ => 0

/-- What is at hand after a look is no further from a frame than waiting for more bytes. -/
theorem rank_look_lt (phase : Phase) (arrived : Bytes) (link : Link ι) (arriving : List Bytes) :
    rank ⟨(Call.look phase arrived link).1, (Call.look phase arrived link).2, arriving⟩ <
      rank ⟨.search phase arrived, link, arriving⟩ := by
  -- The intake finds a frame, or fails, or asks for more.
  rw [Call.look_eq]
  generalize link.round.context.intake.receive phase arrived = answer
  obtain ⟨found, after⟩ := answer
  -- No look takes anything from the pieces that are to arrive.
  unfold rank
  cases found with
  | error offset => simp only; omega
  | ok kind =>
    cases kind with
    | some kind => simp only; omega
    | none =>
      by_cases full : after.spare phase = 0
      · simp only [if_pos full]; omega
      · simp only [if_neg full]; omega

/-- A step keeps what a call knows of its stream, and brings it closer to a frame. -/
theorem Stands.step {settings : Settings} {phase : Phase} {stream : Bytes} {origin : Link ι}
    {fetch after : Fetch ι} (stands : Stands settings phase stream origin fetch)
    (moved : fetch.step = some after) :
    Stands settings phase stream origin after ∧ rank after < rank fetch := by
  -- A call is about to look, or it waits, or it is at its end.
  obtain ⟨filled, intake, stats, held, pending, linked, holds, knows⟩ := stands
  obtain ⟨call, link, arriving⟩ := fetch
  simp only at filled linked knows
  subst linked
  cases call with
  | search there arrived =>
    -- A look leaves all bytes where they can be found.
    obtain ⟨rfl, fits, _, whole⟩ := knows
    simp only [Fetch.step, Option.some.injEq] at moved
    subst moved
    refine ⟨?_, rank_look_lt _ _ _ _⟩
    rw [← whole]
    exact stands_look filled holds fits rfl
  | await there spare =>
    obtain ⟨rfl, rfl, positive, room, whole⟩ := knows
    cases arriving with
    | nil =>
      -- The stream has ended before a frame was complete.
      cases moved
      have none : settings.locate there stream = none := by
        have quiet := (holds.lane there).quiet
        simp only [Intake.only, if_true] at quiet
        rw [List.flatten_nil, List.append_nil] at whole
        rw [settings.locate_eq, ← whole, List.take_of_length_le (by omega)]
        exact (Scanner.firstRun?_eq_none_iff (by omega)).mpr quiet
      refine ⟨⟨filled, _, _, _, _, rfl, holds, ?_, ?_⟩, by simp [rank]⟩
      · have short : ¬ settings.capacity there ≤ stream.length := by
          rw [← whole, List.flatten_nil, List.append_nil]
          omega
        rw [Settings.outcome, none]
        exact if_neg short
      · rw [Settings.taken, none, List.drop_zero, List.append_nil]
        exact whole
    | cons piece later =>
      -- The bytes that arrive are looked at next.
      obtain ⟨bytes, rest, delivery, some, fits, shape, others⟩ := delivered_cons positive filled
      simp only [Fetch.step, delivery] at moved
      obtain ⟨first, more, rfl⟩ := List.exists_cons_of_ne_nil some
      cases moved
      refine ⟨⟨others, _, _, _, _, rfl, holds, rfl, by omega, .inr rfl, ?_⟩, ?_⟩
      · rw [List.append_nil, List.append_assoc, shape]
        exact whole
      · have lengths := congrArg List.length shape
        rw [List.length_append, List.length_cons] at lengths
        simp only [rank]
        omega
  | _ => cases moved

/-- A call that can take no further step towards a frame has come to what the stream comes to. -/
theorem Stands.ended {settings : Settings} {phase : Phase} {stream : Bytes} {origin : Link ι}
    {fetch : Fetch ι} (stands : Stands settings phase stream origin fetch)
    (stuck : fetch.step = none) :
    fetch.call = match settings.outcome phase stream with
      | .ok inbound => .absorb phase inbound
      | .error fault => .halt fault := by
  -- Only a call that has come to an end can take no further step.
  obtain ⟨filled, intake, stats, held, pending, _, _, knows⟩ := stands
  obtain ⟨call, link, arriving⟩ := fetch
  simp only at filled knows
  cases call with
  | absorb there inbound =>
    -- What is at hand is what the stream comes to, by what the call knows.
    obtain ⟨rfl, _, outcome, _⟩ := knows
    rw [outcome]
  | halt fault =>
    obtain ⟨outcome, _⟩ := knows
    rw [outcome]
  | search there arrived => cases stuck
  | await there spare =>
    -- With room to spare, waiting ends in bytes or in the end of the stream.
    obtain ⟨_, _, positive, _⟩ := knows
    cases arriving with
    | nil => cases stuck
    | cons piece later =>
      obtain ⟨bytes, rest, delivery, some, _⟩ := delivered_cons positive filled
      obtain ⟨first, more, rfl⟩ := List.exists_cons_of_ne_nil some
      simp only [Fetch.step, delivery] at stuck
      cases stuck
  | _ => exact absurd knows id

end Fetch

end SentinelRounds
