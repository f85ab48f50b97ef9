import Mathlib.Data.List.Forall2
import SentinelRounds.Frame.Stream
import SentinelRounds.Proofs.Frame.Escape

/-! Frames written one after the other are the frames that a forward search cuts off again. -/

namespace SentinelRounds

namespace Writer

/-- Content as it travels: escaped, and closed by a run of the marker. -/
def sealed (writer : Writer) (content : Bytes) (marker : Markup) : Bytes :=
  Escape.encode writer.runLength content ++ List.replicate writer.runLength marker.byte

/-- Content is accepted under a closing marker if its travelling form keeps the bound. -/
theorem frame_eq_ok_iff {writer : Writer} {content bytes : Bytes} {marker : Markup} :
    writer.frame content marker = .ok bytes ↔
      marker.closes = true ∧ (writer.sealed content marker).length ≤ writer.maxFrame ∧
        bytes = writer.sealed content marker := by
  -- The two tests are taken in the order in which the writer makes them.
  have size : (writer.sealed content marker).length =
      (Escape.encode writer.runLength content).length + writer.runLength := by
    rw [sealed, List.length_append, List.length_replicate]
  rw [size, frame]
  constructor
  · -- An accepted frame has passed both tests.
    intro accepted
    split at accepted
    · rename_i closes
      simp only at accepted
      split at accepted
      · cases accepted
      · rename_i fits
        cases accepted
        exact ⟨closes, Nat.le_of_not_lt fits, rfl⟩
    · cases accepted
  · -- Content that passes both tests is accepted.
    rintro ⟨closes, fits, rfl⟩
    simp only [if_pos closes, if_neg (Nat.not_lt.mpr fits)]
    rfl

/-- A write that succeeds adds the travelling form of the content and counts its bytes. -/
theorem write_eq_ok {writer : Writer} {output content after : Bytes} {marker : Markup}
    {added : Nat} (written : writer.write output content marker = .ok (after, added)) :
    marker.closes = true ∧ (writer.sealed content marker).length ≤ writer.maxFrame ∧
      after = output ++ writer.sealed content marker ∧
      added = (writer.sealed content marker).length := by
  -- Only a frame that is accepted is written.
  rw [write] at written
  cases made : writer.frame content marker with
  | error fault =>
    rw [made] at written
    cases written
  | ok bytes =>
    obtain ⟨closes, fits, rfl⟩ := frame_eq_ok_iff.mp made
    rw [made] at written
    cases written
    exact ⟨closes, fits, rfl, rfl⟩

/-- The first full run of a stream that begins with a frame is that frame's own terminator. -/
theorem firstRun?_sealed (writer : Writer) (regular : 2 ≤ writer.runLength) (content : Bytes)
    {marker : Markup} (closes : marker.closes = true) (rest : Bytes) :
    Scanner.firstRun? writer.runLength (writer.sealed content marker ++ rest) =
      some (marker, (writer.sealed content marker).length) := by
  -- The terminator has at least one byte in front of its last one.
  obtain ⟨fewer, length⟩ : ∃ fewer, writer.runLength = fewer + 1 :=
    ⟨writer.runLength - 1, by omega⟩
  -- Everything up to the last byte of the terminator is quiet.
  obtain ⟨before, front⟩ : ∃ before, before =
      Escape.encode writer.runLength content ++ List.replicate fewer marker.byte := ⟨_, rfl⟩
  have shape : writer.sealed content marker = before ++ [marker.byte] := by
    rw [sealed, front, List.append_assoc, ← List.replicate_succ', ← length]
  have quiet : Run.start.Quiet writer.runLength before := by
    rw [front]
    refine Run.quiet_append.mpr ⟨Escape.quiet_encode regular content, ?_⟩
    rw [Escape.pushAll_encode]
    refine Run.quiet_of_short ?_
    rw [List.length_replicate, length]
    simp [Run.start]
  -- The last byte completes a run that is no longer than the terminator.
  have full : ((Run.start.pushAll before).push marker.byte).length = writer.runLength := by
    have closing := Markup.closing?_eq_some.mpr ⟨closes, rfl⟩
    have grown : (Run.start.pushAll before).push marker.byte =
        Run.start.pushAll (List.replicate writer.runLength marker.byte) := by
      have alone := Run.pushAll_append Run.start (Escape.encode writer.runLength content)
        (List.replicate writer.runLength marker.byte)
      rw [Escape.pushAll_encode, ← sealed, shape, Run.pushAll_append] at alone
      exact alone
    have positive : 0 < writer.runLength := by omega
    -- The terminator is a full run, and it is no longer than its own bytes.
    have long := (Run.le_length_pushAll_iff closing _ positive).mpr (List.suffix_refl _)
    have short := Run.length_pushAll_le Run.start (List.replicate writer.runLength marker.byte)
    rw [List.length_replicate] at short
    have empty : Run.start.length = 0 := rfl
    rw [grown]
    omega
  rw [shape, List.append_assoc, List.singleton_append,
    Scanner.firstRun?_completed (by omega) closes quiet full, List.length_append,
    List.length_singleton]

/-- A frame without its terminator is the escaped content. -/
theorem take_sealed (writer : Writer) (content : Bytes) (marker : Markup) (rest : Bytes) :
    (writer.sealed content marker ++ rest).take
        ((writer.sealed content marker).length - writer.runLength) =
      Escape.encode writer.runLength content := by
  -- The terminator is as long as a run.
  have size : (writer.sealed content marker).length - writer.runLength =
      (Escape.encode writer.runLength content).length := by
    rw [sealed, List.length_append, List.length_replicate, Nat.add_sub_cancel]
  rw [size, sealed, List.append_assoc, List.take_left]

end Writer

namespace Scanner

/-- A stream is cut at its first full run. -/
theorem cut_eq (runLength : Nat) (stream : Bytes) :
    cut runLength stream = (firstRun? (max runLength 1) stream).map fun found =>
      ⟨found.1, stream.take (found.2 - max runLength 1), found.2⟩ := by
  -- The search starts afresh, so what it answers is the first full run.
  rw [cut, scan_ofRunLength, Option.map_map]
  rfl

/-- A stream that begins with a frame is cut after that frame. -/
theorem cut_sealed {writer : Writer} (regular : 2 ≤ writer.runLength) (content : Bytes)
    {marker : Markup} (closes : marker.closes = true) (rest : Bytes) :
    cut writer.runLength (writer.sealed content marker ++ rest) =
      some ⟨marker, Escape.encode writer.runLength content,
        (writer.sealed content marker).length⟩ := by
  -- A regular run is never shorter than one byte.
  have length : max writer.runLength 1 = writer.runLength := by omega
  rw [cut_eq, length, writer.firstRun?_sealed regular content closes]
  simp only [Option.map_some, writer.take_sealed]

/-- Nothing is cut off an empty stream. -/
theorem cutAll_nil (runLength fuel : Nat) : cutAll runLength fuel [] = ([], []) := by
  -- The fuel is spent, or there is no run to cut at.
  cases fuel with
  | zero => rfl
  | succ fuel => rfl

end Scanner

namespace Writer

/-- Whether a call has added a frame. -/
def Answer.isOk : Answer → Bool
  | .ok _ => true
  | .error _ | .lost => false

/-- The calls that were answered with a count of bytes. -/
def succeeded (attempts : List Attempt) (answers : List Answer) : List Attempt :=
  -- Calls after the last answer were never made.
  (attempts.zip answers).filterMap fun (attempt, answer) =>
    if answer.isOk then some attempt else none

/-- A frame is as long as its escaped content and a run, and the content is a part of it. -/
theorem length_sealed (writer : Writer) (content : Bytes) (marker : Markup) :
    (writer.sealed content marker).length =
        (Escape.encode writer.runLength content).length + writer.runLength ∧
      (writer.sealed content marker).length ≤ writer.longest content ∧
      content.length + writer.runLength ≤ (writer.sealed content marker).length := by
  -- Escaping adds bytes, and no more than it is allowed for.
  have most := Escape.length_encode_le writer.runLength content
  have least := Escape.length_le_length_encode writer.runLength content
  rw [sealed, longest, List.length_append, List.length_replicate]
  omega

/-- With the room it asks for, a call is a write. -/
theorem attempt_eq_write {writer : Writer} {output : Bytes} {attempt : Attempt}
    (room : output.length + writer.longest attempt.content < allocationBound) :
    writer.attempt output attempt =
      match writer.write output attempt.content attempt.marker with
      | .ok (after, added) => (.ok added, after)
      | .error fault => (.error fault, output) := by
  -- The sums are as large as they are in the numbers of a machine.
  obtain ⟨size, most, _⟩ := writer.length_sealed attempt.content attempt.marker
  -- No sum wraps, and the frame finds the room that was asked for.
  have below : allocationBound < UInt64.size := by decide
  have asked : writer.longest attempt.content % UInt64.size = writer.longest attempt.content :=
    Nat.mod_eq_of_lt (by omega)
  have counted : ((Escape.encode writer.runLength attempt.content).length + writer.runLength)
      % UInt64.size = (writer.sealed attempt.content attempt.marker).length := by
    rw [← size]
    exact Nat.mod_eq_of_lt (by omega)
  have first : ¬ allocationBound ≤ output.length + writer.longest attempt.content := by omega
  have second : ¬ allocationBound ≤
      (output ++ Escape.encode writer.runLength attempt.content).length + writer.runLength := by
    rw [List.length_append]
    omega
  simp only [Writer.attempt, asked, counted, if_neg first, if_neg second, write, frame]
  -- The two tests that are left are the same on both sides.
  cases closes : attempt.marker.closes with
  | false => rfl
  | true =>
    simp only [if_true, ← size]
    split
    · rfl
    · simp only [Except.map, List.append_assoc, List.length_append, List.length_replicate, size]

/-- A call under a closing marker that has this room is decided by the bound. -/
theorem attempt_of_room {writer : Writer} {output : Bytes} {attempt : Attempt}
    (closes : attempt.marker.closes = true)
    (room : output.length + writer.longest attempt.content < allocationBound) :
    let frame := writer.sealed attempt.content attempt.marker
    (frame.length ≤ writer.maxFrame →
      writer.attempt output attempt = (.ok frame.length, output ++ frame)) ∧
    (writer.maxFrame < frame.length →
      writer.attempt output attempt = (.error (.tooLarge frame.length writer.maxFrame), output)) := by
  -- The call is a write.
  intro frame
  rw [attempt_eq_write room]
  refine ⟨fun fits => ?_, fun exceeds => ?_⟩
  · rw [write, frame_eq_ok_iff.mpr ⟨closes, fits, rfl⟩]
    rfl
  · obtain ⟨size, _, _⟩ := writer.length_sealed attempt.content attempt.marker
    rw [write, Writer.frame, if_pos closes]
    simp only [← size]
    rw [if_pos exceeds]
    rfl

/-- Without that room a call adds nothing: it is lost, or a sum that has wrapped is too large. -/
theorem attempt_of_crowded {writer : Writer} (regular : 2 ≤ writer.runLength) {output : Bytes}
    {attempt : Attempt} (closes : attempt.marker.closes = true)
    (crowded : allocationBound ≤ output.length + writer.longest attempt.content) :
    writer.attempt output attempt = (.lost, output) ∨
      UInt64.size ≤ writer.longest attempt.content ∧
        writer.attempt output attempt = (.error (.tooLarge
          ((writer.sealed attempt.content attempt.marker).length % UInt64.size)
          writer.maxFrame), output) := by
  -- What a call asks for may be more than a machine can count.
  obtain ⟨size, most, least⟩ := writer.length_sealed attempt.content attempt.marker
  rw [size] at least most ⊢
  simp only [Writer.attempt, if_pos closes]
  by_cases wraps : UInt64.size ≤ writer.longest attempt.content
  · -- What is asked for first may be little, but the terminator is still asked for.
    have terminator : allocationBound ≤
        (output ++ Escape.encode writer.runLength attempt.content).length + writer.runLength := by
      have shares := Nat.div_le_self attempt.content.length (Escape.limit writer.runLength)
      have half : 2 * allocationBound < UInt64.size := by decide
      rw [longest, Escape.maxLength] at wraps
      rw [List.length_append]
      omega
    split
    · exact .inl rfl
    · split
      · exact .inr ⟨wraps, rfl⟩
      · exact .inl rfl
  · -- What is asked for first is all that the frame can need.
    rw [Nat.mod_eq_of_lt (by omega), if_pos crowded]
    exact .inl rfl

/-- A marker that closes nothing is refused before anything else. -/
theorem attempt_of_open {writer : Writer} {output : Bytes} {attempt : Attempt}
    (stays : attempt.marker.closes = false) :
    writer.attempt output attempt = (.error (.notTerminator attempt.marker), output) := by
  -- Room is asked for under a closing marker only.
  simp only [Writer.attempt, stays, Bool.false_eq_true, if_false]

/-- A call adds as many bytes as it answers, in the travelling form of its content, or none. -/
theorem attempt_spec {writer : Writer} (regular : 2 ≤ writer.runLength) (output : Bytes)
    (attempt : Attempt) :
    (writer.attempt output attempt =
        (.ok (writer.sealed attempt.content attempt.marker).length,
          output ++ writer.sealed attempt.content attempt.marker) ∧
      attempt.marker.closes = true) ∨
    (∃ fault, writer.attempt output attempt = (.error fault, output)) ∨
    writer.attempt output attempt = (.lost, output) := by
  -- The marker is judged first, then the room, and the bound last.
  cases closes : attempt.marker.closes with
  | false => exact .inr (.inl ⟨_, attempt_of_open closes⟩)
  | true =>
    by_cases room : output.length + writer.longest attempt.content < allocationBound
    · -- A call that has room is decided by the bound.
      obtain ⟨kept, refused⟩ := attempt_of_room closes room
      rcases Nat.lt_or_ge writer.maxFrame
        (writer.sealed attempt.content attempt.marker).length with exceeds | fits
      · exact .inr (.inl ⟨_, refused exceeds⟩)
      · exact .inl ⟨kept fits, rfl⟩
    · rcases attempt_of_crowded regular closes (Nat.le_of_not_lt room) with lost | ⟨_, failed⟩
      · exact .inr (.inr lost)
      · exact .inr (.inl ⟨_, failed⟩)

/-- A first call that returns is answered, and the others find the output it leaves. -/
theorem attemptAll_cons {writer : Writer} {output : Bytes} {first : Attempt}
    (returns : (writer.attempt output first).1 ≠ .lost) (rest : List Attempt) :
    writer.attemptAll output (first :: rest) =
      ((writer.attempt output first).1 ::
          (writer.attemptAll (writer.attempt output first).2 rest).1,
        (writer.attemptAll (writer.attempt output first).2 rest).2) := by
  -- Only a lost call ends the sequence.
  rw [attemptAll]
  split
  · rename_i lost
    exact absurd (congrArg Prod.fst lost) returns
  · rename_i answer left _ made
    rw [made]

/-- Nothing follows a first call that is lost. -/
theorem attemptAll_lost {writer : Writer} {output left : Bytes} {first : Attempt}
    (lost : writer.attempt output first = (.lost, left)) (rest : List Attempt) :
    writer.attemptAll output (first :: rest) = ([.lost], left) := by
  -- The others are never made.
  rw [attemptAll, lost]

/-- Calls in two batches are the calls of the first batch, if they return, and then the others. -/
theorem attemptAll_append {writer : Writer} {output : Bytes} {first : List Attempt}
    (returned : .lost ∉ (writer.attemptAll output first).1) (second : List Attempt) :
    writer.attemptAll output (first ++ second) =
      ((writer.attemptAll output first).1 ++
          (writer.attemptAll (writer.attemptAll output first).2 second).1,
        (writer.attemptAll (writer.attemptAll output first).2 second).2) := by
  -- The second batch finds the output that the first one leaves.
  induction first generalizing output with
  | nil => rfl
  | cons attempt first ih =>
    by_cases lost : (writer.attempt output attempt).1 = .lost
    · -- A call that is lost is the last answer.
      rw [attemptAll_lost (Prod.ext lost rfl)] at returned
      exact absurd List.mem_cons_self returned
    · rw [attemptAll_cons lost] at returned
      rw [List.cons_append, attemptAll_cons lost, attemptAll_cons lost,
        ih (List.not_mem_of_not_mem_cons returned)]
      rfl

/-- Every call has one answer if all of them return. -/
theorem length_attemptAll {writer : Writer} {output : Bytes} {attempts : List Attempt}
    (returned : .lost ∉ (writer.attemptAll output attempts).1) :
    (writer.attemptAll output attempts).1.length = attempts.length := by
  -- A call that fails is answered too.
  induction attempts generalizing output with
  | nil => rfl
  | cons attempt attempts ih =>
    by_cases lost : (writer.attempt output attempt).1 = .lost
    · rw [attemptAll_lost (Prod.ext lost rfl)] at returned
      exact absurd List.mem_cons_self returned
    · rw [attemptAll_cons lost] at returned ⊢
      rw [List.length_cons, List.length_cons, ih (List.not_mem_of_not_mem_cons returned)]

/-- A call that is reached finds what the calls before it leave, and its answer follows theirs. -/
theorem attemptAll_reached {writer : Writer} {output : Bytes} {earlier : List Attempt}
    (returned : .lost ∉ (writer.attemptAll output earlier).1) (attempt : Attempt)
    (later : List Attempt) :
    let before := (writer.attemptAll output earlier).2
    (writer.attemptAll output (earlier ++ attempt :: later)).1[earlier.length]? =
        some (writer.attempt before attempt).1 ∧
      (writer.attemptAll output (earlier ++ [attempt])).2 = (writer.attempt before attempt).2 := by
  -- The answers before it are as many as the calls before it.
  intro before
  have count := length_attemptAll returned
  rw [attemptAll_append returned, attemptAll_append returned,
    List.getElem?_append_right (Nat.le_of_eq count), count, Nat.sub_self]
  -- Whether or not the call returns, it is the first of those that are left.
  by_cases lost : (writer.attempt before attempt).1 = .lost
  · have whole : writer.attempt before attempt = (.lost, _) := Prod.ext lost rfl
    rw [attemptAll_lost whole, attemptAll_lost whole, lost]
    exact ⟨rfl, rfl⟩
  · rw [attemptAll_cons lost, attemptAll_cons lost]
    exact ⟨rfl, rfl⟩

/-- The calls add the frames of the successful ones, in the order of the calls. -/
theorem output_attemptAll {writer : Writer} (regular : 2 ≤ writer.runLength) (output : Bytes)
    (attempts : List Attempt) :
    (writer.attemptAll output attempts).2 =
      output ++ (succeeded attempts (writer.attemptAll output attempts).1).flatMap
        fun attempt => writer.sealed attempt.content attempt.marker := by
  -- Each call adds its frame or nothing to what the calls before it have left.
  induction attempts generalizing output with
  | nil => simp [attemptAll, succeeded]
  | cons attempt attempts ih =>
    rcases attempt_spec regular output attempt with ⟨made, _⟩ | ⟨fault, made⟩ | lost
    · rw [attemptAll_cons (by rw [made]; exact nofun), made, ih]
      simp [succeeded, Answer.isOk]
    · rw [attemptAll_cons (by rw [made]; exact nofun), made, ih]
      simp [succeeded, Answer.isOk]
    · simp [attemptAll_lost lost, succeeded, Answer.isOk]

/-- A call that was answered with a count had a closing marker. -/
theorem closes_of_succeeded {writer : Writer} (regular : 2 ≤ writer.runLength) (output : Bytes)
    (attempts : List Attempt) :
    ∀ attempt ∈ succeeded attempts (writer.attemptAll output attempts).1,
      attempt.marker.closes = true := by
  -- A call is answered with a count only if its marker closes frames.
  induction attempts generalizing output with
  | nil => simp [attemptAll, succeeded]
  | cons first attempts ih =>
    intro attempt member
    have others := ih (writer.attempt output first).2 attempt
    rcases attempt_spec regular output first with ⟨made, closes⟩ | ⟨fault, made⟩ | lost
    · -- The first call is kept, or it failed and only the others are.
      rw [attemptAll_cons (by rw [made]; exact nofun), made] at member
      simp only [succeeded, List.zip_cons_cons, List.filterMap_cons, Answer.isOk, if_true,
        List.mem_cons] at member
      rcases member with rfl | member
      · exact closes
      · rw [made] at others
        exact others member
    · rw [attemptAll_cons (by rw [made]; exact nofun), made] at member
      rw [made] at others
      exact others (by simpa [succeeded, Answer.isOk] using member)
    · -- After a lost call, no call is kept.
      rw [attemptAll_lost lost] at member
      simp [succeeded, Answer.isOk] at member

/-- A stream of frames is cut into these frames, and nothing is left over. -/
theorem cutAll_flatMap {writer : Writer} (regular : 2 ≤ writer.runLength)
    {attempts : List Attempt} (closing : ∀ attempt ∈ attempts, attempt.marker.closes = true)
    {fuel : Nat} (enough : attempts.length ≤ fuel) :
    Scanner.cutAll writer.runLength fuel
        (attempts.flatMap fun attempt => writer.sealed attempt.content attempt.marker) =
      (attempts.map fun attempt => ⟨attempt.marker,
        Escape.encode writer.runLength attempt.content,
        (writer.sealed attempt.content attempt.marker).length⟩, []) := by
  -- The stream is cut after its first frame, and the other frames are left.
  induction attempts generalizing fuel with
  | nil => exact Scanner.cutAll_nil _ _
  | cons attempt attempts ih =>
    obtain ⟨fuel, rfl⟩ : ∃ fewer, fuel = fewer + 1 := by
      rw [List.length_cons] at enough
      exact ⟨fuel - 1, by omega⟩
    have closes := closing attempt List.mem_cons_self
    have others := ih (fun other member => closing other (List.mem_cons_of_mem _ member))
      (Nat.le_of_succ_le_succ enough)
    simp only [List.flatMap_cons, Scanner.cutAll, Scanner.cut_sealed regular _ closes,
      List.drop_left, others, List.map_cons]

/-- Every frame has at least the bytes of its terminator. -/
theorem sealed_ne_nil {writer : Writer} (regular : 2 ≤ writer.runLength) (content : Bytes)
    (marker : Markup) : writer.sealed content marker ≠ [] := by
  -- A regular terminator has two bytes or more.
  intro empty
  have lengths := congrArg List.length empty
  simp only [sealed, List.length_append, List.length_replicate, List.length_nil] at lengths
  omega

/--
Whatever calls are made on an empty output: a call is refused if its marker closes nothing, and else
adds its frame and answers with the frame's length if that keeps the bound, and fails naming both if
it does not; where an output cannot grow that far, nothing is added and no call follows, save that a
sum beyond 64 bits may be answered as too large. The output is the frames of the successful calls in
order, and repeated searches from the front find exactly these, each closed by its own marker and
reading back as it was.
-/
theorem frames_attemptAll {writer : Writer} (regular : 2 ≤ writer.runLength)
    (attempts : List Attempt) :
    let answers := (writer.attemptAll [] attempts).1
    let output := (writer.attemptAll [] attempts).2
    let kept := succeeded attempts answers
    (.lost ∉ answers → answers.length = attempts.length) ∧
    (∀ earlier attempt later, attempts = earlier ++ attempt :: later →
      .lost ∉ (writer.attemptAll [] earlier).1 →
      let before := (writer.attemptAll [] earlier).2
      let after := (writer.attemptAll [] (earlier ++ [attempt])).2
      let frame := writer.sealed attempt.content attempt.marker
      ∃ answer, answers[earlier.length]? = some answer ∧
        (attempt.marker.closes = false →
          answer = .error (.notTerminator attempt.marker) ∧ after = before) ∧
        (attempt.marker.closes = true →
          before.length + writer.longest attempt.content < allocationBound →
          (frame.length ≤ writer.maxFrame →
            answer = .ok frame.length ∧ after = before ++ frame) ∧
          (writer.maxFrame < frame.length →
            answer = .error (.tooLarge frame.length writer.maxFrame) ∧ after = before)) ∧
        (attempt.marker.closes = true →
          allocationBound ≤ before.length + writer.longest attempt.content →
          after = before ∧ (answer = .lost ∨
            UInt64.size ≤ writer.longest attempt.content ∧
              answer = .error (.tooLarge (frame.length % UInt64.size) writer.maxFrame)))) ∧
    output = kept.flatMap (fun attempt => writer.sealed attempt.content attempt.marker) ∧
    List.Forall₂ (fun cut attempt => cut.kind = attempt.marker ∧
        Escape.decode writer.runLength cut.frame = .ok attempt.content)
      (Scanner.frames writer.runLength output).1 kept ∧
    (Scanner.frames writer.runLength output).2 = [] := by
  -- From an empty output, everything written is a frame.
  intro answers output kept
  have written : output = kept.flatMap fun attempt =>
      writer.sealed attempt.content attempt.marker := by
    have added := output_attemptAll regular [] attempts
    rwa [List.nil_append] at added
  refine ⟨length_attemptAll, ?_, written, ?_⟩
  · -- The calls up to the one in question leave the output it finds.
    rintro earlier attempt later rfl returned before after frame
    obtain ⟨answered, left⟩ := attemptAll_reached returned attempt later
    refine ⟨_, answered, fun stays => ?_, fun closes room => ?_, fun closes crowded => ?_⟩
    · rw [attempt_of_open stays] at left ⊢
      exact ⟨rfl, left⟩
    · -- With room, the bound decides.
      obtain ⟨added, refused⟩ := attempt_of_room closes room
      refine ⟨fun fits => ?_, fun exceeds => ?_⟩
      · rw [added fits] at left ⊢
        exact ⟨rfl, left⟩
      · rw [refused exceeds] at left ⊢
        exact ⟨rfl, left⟩
    · rcases attempt_of_crowded regular closes crowded with lost | ⟨wraps, failed⟩
      · rw [lost] at left ⊢
        exact ⟨left, .inl rfl⟩
      · rw [failed] at left ⊢
        exact ⟨left, .inr ⟨wraps, rfl⟩⟩
  · -- The kept frames are cut off one after the other, and each reads back.
    have closing := closes_of_succeeded regular [] attempts
    have number := Bytes.length_le_flatMap
      (fun attempt : Attempt => sealed_ne_nil regular attempt.content attempt.marker)
      (succeeded attempts (writer.attemptAll [] attempts).1)
    rw [Scanner.frames, written, cutAll_flatMap regular closing number]
    refine ⟨?_, rfl⟩
    rw [List.forall₂_map_left_iff, List.forall₂_same]
    intro attempt _
    exact ⟨rfl, Escape.decode_encode _ _⟩

/-- Two successful calls, one whose marker closes nothing, and one that breaks the bound. -/
theorem frames_attemptAll_mixed :
    let writer : Writer := ⟨2, 9⟩
    let attempts : List Attempt :=
      [⟨[0x17, 0x04, 0x1A], .block⟩, ⟨[1], .line⟩, ⟨[1, 2, 3, 4, 5, 6, 7, 8], .final⟩,
        ⟨[], .final⟩]
    let output : Bytes := [0x17, 0x1A, 0x04, 0x1A, 0x1A, 0x1A, 0x17, 0x17, 0x04, 0x04]
    2 ≤ writer.runLength ∧
      writer.attemptAll [] attempts =
        ([.ok 8, .error (.notTerminator .line), .error (.tooLarge 11 9), .ok 2], output) ∧
      List.Forall₂ (fun cut (attempt : Attempt) => cut.kind = attempt.marker ∧
          Escape.decode writer.runLength cut.frame = .ok attempt.content)
        (Scanner.frames writer.runLength output).1
        [⟨[0x17, 0x04, 0x1A], .block⟩, ⟨[], .final⟩] ∧
      (Scanner.frames writer.runLength output).2 = [] := by
  -- The four calls answer one after the other, and the theorem reads their frames.
  intro writer attempts output
  have made : writer.attemptAll [] attempts =
      ([.ok 8, .error (.notTerminator .line), .error (.tooLarge 11 9), .ok 2], output) := by
    decide +kernel
  have regular : 2 ≤ writer.runLength := by decide
  obtain ⟨_, _, _, cuts, rest⟩ := frames_attemptAll regular attempts
  rw [made] at cuts rest
  exact ⟨regular, made, cuts, rest⟩

/-- No output can take a terminator of half the address space. -/
example : Writer.attempt ⟨Nat.pow 2 63, UInt64.size - 1⟩ [] ⟨[], .block⟩ = (.lost, []) := by
  decide +kernel

end Writer

end SentinelRounds
