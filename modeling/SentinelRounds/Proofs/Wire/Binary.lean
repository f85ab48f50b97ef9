import SentinelRounds.Wire.Binary
import SentinelRounds.Proofs.Text.Utf8

/-! Values written in the binary layout read back as they were, if their lengths fit their counters. -/

namespace SentinelRounds

namespace Binary

/-- The front of some bytes is split off by its length. -/
theorem split?_append (front rest : Bytes) :
    split? front.length (front ++ rest) = some (front, rest) := by
  -- One byte is split off for each byte of the front.
  induction front with
  | nil => rfl
  | cons b front ih => simp only [List.length_cons, List.cons_append, split?, ih, Option.map_some]

/-- Whether the bytes of a text can be counted, as those of every text in memory can. -/
def Countable (text : String) : Prop := (Utf8.encode text).length < UInt64.size

namespace Layout

variable {α β : Type}

/-- Whatever follows the writing of a value, reading takes that value and leaves what follows. -/
def Restores (layout : Layout α) (value : α) : Prop :=
  ∀ rest, layout.get (layout.put value ++ rest) = .ok (value, rest)

/-- A layout that restores every value whose writing could be counted. -/
def Sound (layout : Layout α) : Prop :=
  ∀ value, (layout.put value).length < UInt64.size → layout.Restores value

/-- A number that fits its width is restored. -/
theorem restores_natural {width n : Nat} (fits : n < Bytes.bound width) :
    (natural width).Restores n := by
  -- A number takes exactly its width.
  intro rest
  have split := split?_append (Bytes.ofNat width n) rest
  rw [Bytes.length_ofNat] at split
  simp only [natural, split, Bytes.toNat_ofNat, Nat.mod_eq_of_lt fits]

/-- A conversion restores what the layout below it restores. -/
theorem Restores.via {layout : Layout α} {build : α → β} {view : β → α} {value : β}
    (below : layout.Restores (view value)) (undone : build (view value) = value) :
    (layout.via build view).Restores value := by
  -- The layout below restores the view, and the conversion is undone.
  intro rest
  simp only [Layout.via, below rest, Except.map, undone]

/-- Conversions that undo each other keep a layout sound. -/
theorem Sound.via {layout : Layout α} {build : α → β} {view : β → α} (below : layout.Sound)
    (undone : ∀ value, build (view value) = value) : (layout.via build view).Sound :=
  fun value counted => (below (view value) counted).via (undone value)

/-- A truth value is restored. -/
theorem restores_flag (value : Bool) : flag.Restores value := by
  -- The two values have one byte each.
  intro rest
  cases value <;> rfl

/-- Truth values are restored. -/
theorem sound_flag : flag.Sound := fun value _ => restores_flag value

/-- Eight bytes hold every length that can be counted. -/
theorem toNat_count {count : Nat} (counted : count < UInt64.size) :
    Bytes.toNat (Bytes.ofNat 8 count) = count := by
  -- Only what exceeds eight bytes would be cut off.
  rw [Bytes.toNat_ofNat]
  exact Nat.mod_eq_of_lt counted

/-- The bytes of a length are split off the front. -/
theorem split?_count (count : Nat) (rest : Bytes) :
    split? 8 (Bytes.ofNat 8 count ++ rest) = some (Bytes.ofNat 8 count, rest) := by
  -- The eight bytes are all that is asked for.
  have split := split?_append (Bytes.ofNat 8 count) rest
  rwa [Bytes.length_ofNat] at split

/-- A text whose length can be counted is restored. -/
theorem restores_text {value : String} (countable : Countable value) : text.Restores value := by
  -- The length is read, then as many bytes, and they are the writing of the text.
  intro rest
  simp only [text, List.append_assoc, split?_count, toNat_count countable, split?_append,
    Utf8.decode_encode]

/-- Texts are restored. -/
theorem sound_text : text.Sound := by
  -- A text is no longer than its writing, so its length can be counted.
  intro value counted
  have countable : Countable value := by
    simp only [text, List.length_append] at counted
    unfold Countable
    omega
  exact restores_text countable

/-- A value that may be missing is restored if it is when it is there. -/
theorem Restores.optional {item : Layout α} {value : Option α}
    (below : ∀ present ∈ value, item.Restores present) : (item.optional).Restores value := by
  -- A value that is missing is a single byte.
  intro rest
  cases value with
  | none => rfl
  | some value =>
    -- The tag tells it from a missing value.
    have different : ¬ (1 : UInt8) = 0 := by decide
    simp only [Layout.optional, List.cons_append, if_neg different, if_true, below value rfl rest,
      Except.map]

/-- Values that may be missing are restored. -/
theorem Sound.optional {item : Layout α} (sound : item.Sound) : (item.optional).Sound := by
  -- The tag leaves the value as much room as it takes.
  intro value counted
  refine Restores.optional fun present there => sound present ?_
  cases there
  simp only [Layout.optional, List.length_cons] at counted
  omega

/-- Two values one after the other are restored if each of them is. -/
theorem Restores.pair {first : Layout α} {second : Layout β} {value : α × β}
    (front : first.Restores value.1) (back : second.Restores value.2) :
    (first.pair second).Restores value := by
  -- The second value stands in the rest that the first one leaves.
  intro rest
  simp only [Layout.pair, List.append_assoc, front _, back rest, Except.map]

/-- Values one after the other are restored. -/
theorem Sound.pair {first : Layout α} {second : Layout β} (left : first.Sound)
    (right : second.Sound) : (first.pair second).Sound := by
  -- Each part is no longer than the whole.
  intro value counted
  simp only [Layout.pair, List.length_append] at counted
  exact .pair (left _ (by omega)) (right _ (by omega))

/-- Nothing at all is restored. -/
theorem sound_empty : empty.Sound := fun _ _ _ => rfl

/-- Values in a row are restored. -/
theorem getMany_flatMap {item : Layout α} {values : List α}
    (each : ∀ value ∈ values, item.Restores value) (rest : Bytes) :
    getMany item values.length (values.flatMap item.put ++ rest) = .ok (values, rest) := by
  -- The values are taken from the front, one by one.
  induction values with
  | nil => rfl
  | cons value values ih =>
    have first := each value List.mem_cons_self
    have others := ih fun other member => each other (List.mem_cons_of_mem _ member)
    simp only [List.length_cons, List.flatMap_cons, List.append_assoc, getMany, first _, others]

/-- A sequence is restored if its values are and their number can be counted. -/
theorem Restores.list {item : Layout α} {values : List α} (count : values.length < UInt64.size)
    (each : ∀ value ∈ values, item.Restores value) : (item.list).Restores values := by
  -- The number of values is read, and then one value after the other.
  intro rest
  simp only [Layout.list, List.append_assoc, split?_count, toNat_count count,
    getMany_flatMap each]

/-- Sequences are restored if their values take space, since then their number can be counted. -/
theorem Sound.list {item : Layout α} (sound : item.Sound)
    (solid : ∀ value, item.put value ≠ []) : (item.list).Sound := by
  -- Each value is no longer than all of them.
  intro values counted
  simp only [Layout.list, List.length_append] at counted
  have each : ∀ value ∈ values, item.Restores value := by
    intro value member
    have part : (item.put value).Sublist (values.flatMap item.put) :=
      List.sublist_flatten_of_mem (List.mem_map_of_mem member)
    have shorter := part.length_le
    exact sound value (by omega)
  have number := Bytes.length_le_flatMap solid values
  exact .list (by omega) each

end Layout

end Binary

end SentinelRounds
