import SentinelRounds.Frame.Writer
import SentinelRounds.Proofs.Frame.Escape
import SentinelRounds.Proofs.Round.Header
import SentinelRounds.Proofs.Wire.Visible

/-! Headers encoded as JSON travel as they are: no text in them leaves anything to escape. -/

namespace SentinelRounds

/-- Visible bytes need no guard, since closing bytes and escapes are control characters. -/
theorem Json.Visible.guards {bytes : Bytes} (visible : Visible bytes) :
    ∀ b ∈ bytes, Escape.guards b = false := by
  -- Each guard is below the first visible byte.
  intro b member
  have shown := visible b member
  have differs : ∀ control : UInt8, control.toNat < 0x20 → b ≠ control := by
    rintro control below rfl
    omega
  refine Escape.guards_eq_false.mpr ⟨?_, differs _ (by decide)⟩
  rw [Markup.closing?, if_neg (differs _ (by decide)), if_neg (differs _ (by decide))]

/-- Identities are printed visibly. -/
theorem Identity.shows_schema : schema.json.Shows :=
  Schema.shows_record _ _ _ ⟨Json.visible_printText, Json.visible_printText, trivial⟩

/-- Descriptors are printed visibly. -/
theorem Descriptor.shows_schema : schema.json.Shows :=
  Schema.shows_record _ _ _
    ⟨Json.visible_printText, Schema.shows_word _ _ _ _, Schema.shows_word _ _ _ _, trivial⟩

namespace Header

/-- Headers are printed visibly. -/
theorem shows_schema : schema.json.Shows := by
  -- Field by field, a header is made of words, flags and texts.
  have text : Schema.text.json.Shows := Json.visible_printText
  have flag := Json.Form.shows_flag
  exact Schema.shows_record _ _ _
    ⟨Schema.shows_word _ _ _ _, Identity.shows_schema, Descriptor.shows_schema.list,
      Schema.shows_word _ _ _ _, Schema.shows_word _ _ _ _, flag, flag, flag,
      Schema.shows_word _ _ _ _, text.optional, trivial⟩

/--
A header in JSON is framed verbatim, its bytes and a terminator behind them, wherever there is room
for both; taking the frame apart leaves these bytes, and they are decoded as the header.
-/
theorem write_json (writer : Writer) (output : Bytes) (header : Header) :
    let bytes := Encoding.json.encode schema header
    let size := bytes.length + writer.runLength
    (writer.write output bytes .final =
      if size ≤ writer.maxFrame then
        .ok (output ++ (bytes ++ List.replicate writer.runLength Markup.final.byte), size)
      else .error (.tooLarge size writer.maxFrame)) ∧
    Escape.decode writer.runLength bytes = .ok bytes ∧
    Encoding.json.decode schema bytes = .ok header := by
  -- Visible bytes need no escape, so the sealed frame is the content and the run.
  intro bytes size
  have visible : Json.Visible bytes := shows_schema header
  have verbatim := Escape.encode_of_plain writer.runLength visible.guards
  refine ⟨?_, ?_, ?_⟩
  · -- The frame is the content as it is, before the terminator.
    have closes : Markup.final.closes = true := rfl
    simp only [Writer.write, Writer.frame, if_pos closes, verbatim]
    by_cases room : size ≤ writer.maxFrame
    · rw [if_pos room, if_neg (Nat.not_lt.mpr room)]
      simp only [Except.map, List.length_append, List.length_replicate]
      rfl
    · rw [if_neg room, if_pos (Nat.lt_of_not_le room)]
      rfl
  · have decoded := Escape.decode_encode writer.runLength bytes
    rwa [verbatim] at decoded
  · have decoded := Json.Form.decode_print (sound_schema.json header)
    simp only [Encoding.decode, bytes, Encoding.encode, decoded]

end Header

end SentinelRounds
