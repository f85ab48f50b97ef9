import SentinelRounds.Wire.Schema
import SentinelRounds.Proofs.Wire.Json

/-! Printed JSON holds no control characters, whatever the texts in it hold. -/

namespace SentinelRounds

namespace Json

/-- Whether none of some bytes is a control character. -/
def Visible (bytes : Bytes) : Prop := ∀ b ∈ bytes, 0x20 ≤ b.toNat

instance (bytes : Bytes) : Decidable (Visible bytes) := List.decidableBAll _ bytes

/-- A byte is put in front of visible ones. -/
theorem visible_cons {b : UInt8} {rest : Bytes} :
    Visible (b :: rest) ↔ 0x20 ≤ b.toNat ∧ Visible rest :=
  List.forall_mem_cons

/-- Visible bytes stay visible one after the other. -/
theorem visible_append {front back : Bytes} :
    Visible (front ++ back) ↔ Visible front ∧ Visible back :=
  List.forall_mem_append

/-- Parts that are visible are so in a row. -/
theorem visible_flatMap {α : Type} {values : List α} {part : α → Bytes}
    (each : ∀ value ∈ values, Visible (part value)) : Visible (values.flatMap part) := by
  -- Every byte belongs to one of the parts.
  intro b member
  obtain ⟨value, inside, found⟩ := List.mem_flatMap.mp member
  exact each value inside b found

/-- Numerals are visible. -/
theorem visible_numeral (n : Nat) : Visible (Digits.encode n) := by
  -- All its bytes are digits.
  intro b member
  have digit := (Digits.encode_spells n).1 b member
  simp only [Digits.isDigit, Bool.and_eq_true, decide_eq_true_eq] at digit
  omega

/-- Hexadecimal digits are visible. -/
theorem visible_hexByte : ∀ digit < 0x10, Visible [hexByte digit] := by decide

/-- No character is printed with a control character, since those are escaped. -/
theorem visible_printChar (c : Char) : Visible (printChar c) := by
  -- The cases are those of the printer, in its order.
  unfold printChar
  split
  · decide
  split
  · decide
  split
  · decide
  split
  · decide
  split
  · decide
  split
  · decide
  split
  · decide
  split
  · rename_i small
    rw [hexDigits_low _ small, visible_append]
    exact ⟨by decide, visible_hexByte _ small⟩
  split
  · obtain ⟨n, code⟩ : ∃ n, c.toNat = 0x10 + n := ⟨c.toNat - 0x10, by omega⟩
    rw [code, hexDigits_high n (by omega), visible_append, visible_cons]
    exact ⟨by decide, by decide, visible_hexByte n (by omega)⟩
  · -- Every byte of the writing is the character itself, or belongs to a longer writing.
    rename_i plain
    intro b member
    have valid := Utf8.toNat_valid c
    rcases Utf8.mem_encodePoint (by omega) member with code | large
    · omega
    · omega

/-- Printed texts are visible. -/
theorem visible_printText (text : String) : Visible (printText text) := by
  -- The quotes are visible, and so is every character between them.
  rw [printText, visible_cons, visible_append]
  exact ⟨by decide, visible_flatMap fun c _ => visible_printChar c, by decide⟩

/-- Visible values are printed in a visible row. -/
theorem visible_printRow {rows : List Bytes} (each : ∀ row ∈ rows, Visible row) :
    Visible (printRow rows) := by
  -- An empty row has no bytes at all.
  cases rows with
  | nil => exact nofun
  | cons first rows =>
    -- A comma stands before every row but the first.
    obtain ⟨front, later⟩ := List.forall_mem_cons.mp each
    rw [Form.printRow_cons, visible_append]
    refine ⟨front, visible_flatMap fun row member => ?_⟩
    exact visible_cons.mpr ⟨by decide, later row member⟩

namespace Form

variable {α : Type}

/-- Whether a form prints every value visibly. -/
def Shows (form : Form α) : Prop := ∀ value, Visible (form.print value)

/-- Truth values are printed visibly. -/
theorem shows_flag : flag.Shows := by
  -- The two words are checked letter by letter.
  intro value
  cases value <;> decide

/-- Values that may be missing are printed visibly if those that are there are. -/
theorem Shows.optional {item : Form α} (below : item.Shows) : (item.optional).Shows := by
  -- A missing value is a word of its own.
  intro value
  cases value with
  | none => exact (by decide : Visible (Bytes.ofAscii "null"))
  | some value => exact below value

/-- Sequences are printed visibly if their values are. -/
theorem Shows.list {item : Form α} (below : item.Shows) : (item.list).Shows := by
  -- Brackets stand around a row of printed values.
  intro values
  refine visible_cons.mpr ⟨by decide, visible_append.mpr ⟨visible_printRow ?_, by decide⟩⟩
  intro row member
  obtain ⟨value, _, rfl⟩ := List.mem_map.mp member
  exact below value

end Form

end Json

namespace Schema

open Json

namespace Fields

/-- Whether every field of a record is printed visibly. -/
def Shows {ρ σ : Type} : Fields ρ σ → Prop
  | .done => True
  | .field _ schema _ rest => schema.json.Shows ∧ rest.Shows

/-- The members of a record are printed visibly if its fields are. -/
theorem visible_printMembers {ρ σ : Type} {fields : Fields ρ σ} (shows : fields.Shows)
    (values : ρ) : ∀ row ∈ fields.printMembers values, Visible row := by
  -- Each member is a name, a colon and a value.
  induction fields with
  | done => exact nofun
  | field name schema fallback rest ih =>
    obtain ⟨value, others⟩ := values
    obtain ⟨here, later⟩ := shows
    refine List.forall_mem_cons.mpr ⟨?_, ih later others⟩
    exact visible_append.mpr ⟨visible_printText name, visible_cons.mpr ⟨by decide, here value⟩⟩

end Fields

/-- Records are printed visibly if their fields are. -/
theorem shows_record {α ρ σ : Type} (name : String) {fields : Fields ρ σ} (build : ρ → α)
    (view : α → ρ) (shows : fields.Shows) : (record name fields build view).json.Shows := by
  -- Braces stand around a row of printed members.
  intro value
  have members := visible_printRow (Fields.visible_printMembers shows (view value))
  exact visible_cons.mpr ⟨by decide, visible_append.mpr ⟨members, by decide⟩⟩

/-- Numbers are printed visibly. -/
theorem shows_word {α : Type} (width : Nat) (expected : String) (build : Nat → α)
    (view : α → Nat) : ((natural width expected).via build view).json.Shows :=
  fun value => visible_numeral (view value)

end Schema

end SentinelRounds
