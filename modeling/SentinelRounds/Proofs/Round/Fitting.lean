import SentinelRounds.Proofs.Round.Sending

/-! Settings are accepted exactly if every batch fits its frame, so no chunk is ever too large. -/

namespace SentinelRounds

namespace Settings

/-- Settings are accepted if their values are in range and the longest chunk frame has room. -/
theorem check_of_room {settings : Settings} (regular : 2 ≤ settings.runLength)
    (batched : 0 < settings.batchSize) (room : settings.maxChunkFrame ≤ settings.messageCapacity)
    (headed : settings.runLength < settings.headerCapacity) : settings.checkExact = .ok () := by
  -- None of the four tests finds a fault.
  have runs : ¬ settings.runLength < 2 := by omega
  have batches : ¬ settings.batchSize = 0 := by omega
  rw [checkExact, checkFor, if_neg runs, if_neg batches, if_neg (Nat.not_lt.mpr room),
    if_neg (Nat.not_le.mpr headed)]

/-- The frame of a whole batch of one closing byte takes all the size that settings allow for. -/
theorem length_sealed_replicate {settings : Settings} (batched : 0 < settings.batchSize)
    (kind : Markup) :
    ((settings.writer .message).sealed (List.replicate settings.batchSize Markup.block.byte)
      kind).length = settings.maxChunkFrame := by
  -- No content of that length is escaped more often.
  have closing : Markup.closing? Markup.block.byte = some .block := rfl
  have longest := Escape.length_encode_replicate settings.runLength closing batched
  simp only [Writer.sealed, writer, List.length_append, List.length_replicate, longest,
    maxChunkFrame]

end Settings

namespace Round

variable {ι : Type}

/-- If settings are accepted without a bound, any chunk of at most a batch is written. -/
theorem sendChunk_ne_error {round : Round ι}
    (checked : round.context.settings.checkExact = .ok ())
    {role : Role} {chunk : Bytes} (short : chunk.length ≤ round.context.settings.batchSize)
    {kind : Markup} (closes : kind.closes = true) {fault : RoundFault} :
    (round.sendChunk role chunk kind).1 ≠ .error fault := by
  -- Noting the chunk does not touch the settings.
  have same : (round.noteChunk role).context = round.context := by cases role <;> rfl
  have fits := length_sealed_le checked short kind
  have written := writeFrame_of_fits (round.noteChunk role) .message closes
    (by rw [same]; exact fits)
  intro failed
  simp only [sendChunk, written] at failed
  split at failed <;> cases failed

/--
The next chunk breaks a contract, or there is no memory for a batch, or it is a chunk of at most a
batch that is sent under the same settings, closed as the last of its item or as one of its others.
-/
theorem sendMessage_cases [Transferable ι] (round : Round ι) (role : Role) :
    (∃ contract, (round.sendMessage role).1 = .error (.contract contract)) ∨
    (round.sendMessage role).1 = .error (.noMemory round.context.settings.batchSize) ∨
    ∃ (ready : Round ι) (chunk : Bytes) (kind : Markup),
      round.sendMessage role = ready.sendChunk role chunk kind ∧
      ready.context.settings = round.context.settings ∧
      chunk.length ≤ round.context.settings.batchSize ∧ kind.closes = true := by
  -- The cases are the branches of the operation.
  unfold sendMessage
  simp only
  split
  · -- There is no item to send.
    exact .inl ⟨_, rfl⟩
  · split
    · -- The batch is longer than any memory.
      exact .inr (.inl rfl)
    · split
      · -- An exhausted body is sent as an empty chunk.
        exact .inr (.inr ⟨_, [], .final, rfl, rfl, Nat.zero_le _, rfl⟩)
      · split
        · -- The item has written more than a batch.
          exact .inl ⟨_, rfl⟩
        · rename_i short
          exact .inr (.inr ⟨_, _, _, rfl, rfl, Nat.le_of_not_lt short, by split <;> rfl⟩)

/--
If settings are accepted without a bound, only a broken contract or a lack of memory keeps the next
chunk from being sent.
-/
theorem contract_of_sendMessage [Transferable ι] {round : Round ι}
    (checked : round.context.settings.checkExact = .ok ()) (role : Role) {fault : RoundFault}
    (failed : (round.sendMessage role).1 = .error fault) :
    (∃ contract, fault = .contract contract) ∨
      fault = .noMemory round.context.settings.batchSize := by
  -- Of all the ways in which a chunk can fail, its frame is none.
  rcases round.sendMessage_cases role with
    ⟨contract, broken⟩ | lost | ⟨ready, chunk, kind, sends, same, short, closes⟩
  · rw [broken] at failed
    cases failed
    exact .inl ⟨contract, rfl⟩
  · rw [lost] at failed
    cases failed
    exact .inr rfl
  · -- A chunk of at most a batch is written.
    rw [sends] at failed
    rw [← same] at checked short
    exact absurd failed (sendChunk_ne_error checked short closes)

end Round

namespace Settings

/--
Settings with a regular run, a batch and room for a header are accepted exactly if message frames
can be written for every content of at most a batch under both closing values; in a round with
accepted settings, no chunk of a message is ever too large to be sent. This is so in numbers without
a bound, and in words as long as they can hold the size of a chunk frame.
-/
theorem check_exact {settings : Settings} (regular : 2 ≤ settings.runLength)
    (batched : 1 ≤ settings.batchSize) (headed : settings.runLength < settings.headerCapacity) :
    (settings.checkExact = .ok () ↔ ∀ (output content : Bytes) (marker : Markup),
      content.length ≤ settings.batchSize → marker.closes = true →
        ∃ written, (Writer.mk settings.runLength settings.messageCapacity).write output content
          marker = .ok written) ∧
    (settings.checkExact = .ok () → ∀ {ι : Type} [Transferable ι] (round : Round ι) (role : Role),
      round.context.settings = settings → ∀ size limit,
        (round.sendMessage role).1 ≠ .error (.codec (.frame (.tooLarge size limit)))) ∧
    (settings.maxChunkFrame < UInt64.size → settings.check = settings.checkExact) := by
  -- There are two directions for the settings, and then the round.
  refine ⟨⟨?_, ?_⟩, ?_, check_eq_checkExact⟩
  · -- Accepted settings leave room for every batch.
    intro checked output content marker short closes
    have fits := Round.length_sealed_le checked short marker
    have made := Writer.frame_eq_ok_iff.mpr ⟨closes, fits, rfl⟩
    have written : (Writer.mk settings.runLength settings.messageCapacity).write output content
        marker = .ok (output ++ (settings.writer .message).sealed content marker,
          ((settings.writer .message).sealed content marker).length) := by
      rw [Writer.write]
      exact congrArg (Except.map _) made
    exact ⟨_, written⟩
  · -- A batch that is all closing bytes takes the most, and it is one of those that fit.
    intro writes
    have full : (List.replicate settings.batchSize Markup.block.byte).length ≤ settings.batchSize :=
      Nat.le_of_eq List.length_replicate
    obtain ⟨⟨after, added⟩, written⟩ := writes [] _ .block full rfl
    have fits := (Writer.write_eq_ok written).2.1
    have longest := length_sealed_replicate batched .block
    exact check_of_room regular batched (Nat.le_trans (Nat.le_of_eq longest.symm) fits) headed
  · -- What keeps a chunk from being sent is no fault of its frame.
    intro checked ι _ round role configured size limit failed
    subst configured
    rcases Round.contract_of_sendMessage checked role failed with ⟨contract, other⟩ | other
    · cases other
    · cases other

/-- The least buffer for batches of three bytes and runs of two takes every such batch. -/
theorem check_exact_tight :
    let settings : Settings := { messageCapacity := 9, batchSize := 3, runLength := 2 }
    2 ≤ settings.runLength ∧ 1 ≤ settings.batchSize ∧
      settings.runLength < settings.headerCapacity ∧
      (∀ (output content : Bytes) (marker : Markup), content.length ≤ 3 → marker.closes = true →
        ∃ written, (Writer.mk 2 9).write output content marker = .ok written) ∧
      ∀ (round : Round Parcel), round.context.settings = settings → ∀ size limit,
        (round.sendMessage .client).1 ≠ .error (.codec (.frame (.tooLarge size limit))) := by
  -- The general theorem is applied to the least buffer.
  have exact := @check_exact { messageCapacity := 9, batchSize := 3, runLength := 2 }
    (by decide) (by decide) (by decide)
  exact ⟨by decide, by decide, by decide, exact.1.mp rfl,
    fun round configured => exact.2.1 rfl round .client configured⟩

end Settings

end SentinelRounds
