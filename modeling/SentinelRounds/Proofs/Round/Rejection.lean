import SentinelRounds.Depot.Memory
import SentinelRounds.Proofs.Round.Header

/-! A header that cannot be answered leaves nothing behind but the record of its fault. -/

namespace SentinelRounds

namespace Round

/-- Why a frame is refused: it is not decoded, or the header in it cannot be answered. -/
inductive Refuses (encoding : Encoding) (frame : Bytes) : RoundFault → Prop
  | undecoded {fault : CodecFault} (failed : encoding.decode Header.schema frame = .error fault) :
    Refuses encoding frame (.codec fault)
  | violates {header : Header} {fault : RoundFault}
      (decoded : encoding.decode Header.schema frame = .ok header)
      (violates : header.Violates fault) :
    Refuses encoding frame fault

/-- Reading a header fails for just the reasons for which the frame is refused. -/
theorem readHeader_eq_error_iff {encoding : Encoding} {frame : Bytes} {fault : RoundFault} :
    readHeader encoding frame = .error fault ↔ Refuses encoding frame fault := by
  -- The frame cannot be decoded, or its header breaks a rule.
  constructor
  · intro failed
    unfold readHeader at failed
    split at failed
    · -- The bytes are no header.
      rename_i undecoded
      cases failed
      exact .undecoded undecoded
    rename_i decoded
    split at failed
    · -- They are one, which breaks a rule.
      rename_i unfit
      cases failed
      exact .violates decoded (Header.check_eq_error_iff.mp unfit)
    · cases failed
  · intro refuses
    cases refuses with
    | undecoded failed => rw [readHeader, failed]
    | violates decoded violates =>
      rw [readHeader, decoded]
      simp only [Header.check_eq_error_iff.mpr violates]

/-- A frame is refused for some reason unless it stands for a header that can be answered. -/
theorem exists_refuses {encoding : Encoding} {frame : Bytes}
    (unanswerable : ∀ header, encoding.decode Header.schema frame = .ok header →
      ¬ header.Answerable) :
    ∃ fault, Refuses encoding frame fault := by
  -- A frame that can be read stands for a header that can be answered.
  cases read : readHeader encoding frame with
  | error fault => exact ⟨fault, readHeader_eq_error_iff.mp read⟩
  | ok header =>
    obtain ⟨decoded, checked⟩ := readHeader_eq_ok_iff.mp read
    exact absurd (Header.check_eq_ok_iff.mp checked) (unanswerable header decoded)

variable {δ ι : Type}

/--
The round after a fault with some text has been recorded: it closes, no message phase is left, one
more error is counted, nobody waits for a message, and the outgoing notice ends with the text.
-/
def recorded (round : Round ι) (role : Role) (text : String) : Round ι :=
  let context := round.context
  let header := round.outgoingHeader role
  let context := { context with
    close := true
    receiving := { context.receiving with active := false }
    sending := { context.sending with active := false }
    errors := context.errors + 1
    signals := { context.signals with messageReceived := true, chunksReceived := true } }
  let notice := match header.notice with
    | none => text
    | some earlier => earlier ++ "\n" ++ text
  { round with context }.setOutgoingHeader role { header with notice := some notice }

/-- A fault is recorded with its wording. -/
theorem fault_eq_recorded (round : Round ι) (role : Role) (fault : RoundFault) :
    round.fault role fault = round.recorded role fault.message := by
  -- The line is joined to the notice in either case of it.
  have joined : Header.joinNotice (round.outgoingHeader role).notice fault.message =
      match (round.outgoingHeader role).notice with
      | none => fault.message
      | some earlier => earlier ++ "\n" ++ fault.message := by
    cases (round.outgoingHeader role).notice <;> rfl
  rw [recorded, ← joined]
  cases role <;> rfl

/--
A frame that stands for no header that can be answered changes nothing but the record of its fault,
and neither does a chunk that nobody waits for: the depot stays as it was, and so does all of the
round that the record does not name. Counting one more error does not overflow.
-/
theorem receive_unanswerable [Transferable ι] [Depot δ ι] (round : Round ι) (depot : δ)
    (role : Role) (countable : round.context.errors.toNat + 1 < UInt32.size) :
    (∀ frame,
      (∀ header, round.context.settings.encoding.decode Header.schema frame = .ok header →
        ¬ header.Answerable) →
      ∃ fault, Refuses round.context.settings.encoding frame fault ∧
        round.receiveHeader depot role frame = (round.recorded role fault.message, depot)) ∧
    (round.context.receiving.left = 0 → ∀ frame kind,
      round.receiveMessage depot role frame kind =
        (round.recorded role (RoundFault.unexpectedChunk round.context.receiving.item).message,
          depot)) ∧
    ∀ text, (round.recorded role text).context.errors.toNat = round.context.errors.toNat + 1 := by
  -- A header and a chunk are recorded in the same way.
  refine ⟨fun frame unanswerable => ?_, fun settled frame kind => ?_, fun text => ?_⟩
  · obtain ⟨fault, refuses⟩ := exists_refuses unanswerable
    refine ⟨fault, refuses, ?_⟩
    simp only [receiveHeader, readHeader_eq_error_iff.mpr refuses, fault_eq_recorded]
  · rw [receiveMessage, if_pos settled, fault_eq_recorded]
  · have counted : (round.recorded role text).context.errors = round.context.errors + 1 := by
      cases role <;> rfl
    rw [counted, UInt32.toNat_add]
    exact Nat.mod_eq_of_lt countable

/-- A server gets a frame cut short, a header whose count does not fit its items, a stray chunk. -/
theorem receive_unanswerable_served :
    let settings : Settings := {}
    let round : Round Parcel := .ofContext (.initial {} settings)
    let depot := MemoryDepot.unrestricted
    let header : Header := { items := [⟨"key", 1, 1⟩] }
    let frame := settings.encoding.encode Header.schema header
    let mismatch := "Invalid transferable: items_count 0 does not match 1 descriptors"
    (∃ fault, Refuses .binary [0xFF] fault ∧
      round.receiveHeader depot .server [0xFF] = (round.recorded .server fault.message, depot)) ∧
    round.receiveHeader depot .server frame = (round.recorded .server mismatch, depot) ∧
    round.receiveMessage depot .server [0x61] .final =
      (round.recorded .server "Unexpected chunk for item 0", depot) := by
  -- The header is well formed, but it counts none of its items.
  intro settings round depot header frame mismatch
  have countable : round.context.errors.toNat + 1 < UInt32.size := by decide
  obtain ⟨refused, stray, -⟩ := receive_unanswerable round depot .server countable
  have truncated : ∃ fault, Encoding.binary.decode Header.schema [0xFF] = .error fault := ⟨_, rfl⟩
  have decoded : Encoding.binary.decode Header.schema frame = .ok header :=
    Encoding.decode_encode Header.sound_schema .binary (by decide +kernel)
  have uncounted : Refuses .binary frame (.contract (.countMismatch 0 1)) :=
    .violates decoded (.count rfl (by decide))
  have worded : (RoundFault.contract (.countMismatch 0 1)).message = mismatch := by decide +kernel
  have unexpected : (RoundFault.unexpectedChunk 0).message = "Unexpected chunk for item 0" := by
    decide +kernel
  refine ⟨refused _ fun other read => ?_, ?_, ?_⟩
  · obtain ⟨fault, failed⟩ := truncated
    exact nomatch failed.symm.trans read
  · obtain ⟨fault, refuses, received⟩ := refused frame fun other read sound => by
      cases decoded.symm.trans read
      exact absurd sound.counted (by decide)
    -- There is but one reason for which a frame is refused.
    have same := (readHeader_eq_error_iff.mpr uncounted).symm.trans
      (readHeader_eq_error_iff.mpr refuses)
    cases same
    rw [received, worded]
  · rw [← unexpected]
    exact stray rfl _ _

end Round

end SentinelRounds
