import SentinelRounds.Wire.Schema
import SentinelRounds.Proofs.Wire.Binary

/-! What the binary layout reads is exactly what it writes, with anything behind it. -/

namespace SentinelRounds

namespace Binary

/-- What is split off is the front of the bytes, and as long as asked for. -/
theorem split?_eq_some {count : Nat} {bytes taken rest : Bytes}
    (split : split? count bytes = some (taken, rest)) :
    taken.length = count ∧ bytes = taken ++ rest := by
  -- The bytes are split off one by one.
  induction count generalizing bytes taken with
  | zero =>
    cases split
    exact ⟨rfl, rfl⟩
  | succ count ih =>
    cases bytes with
    | nil => cases split
    | cons b bytes =>
      -- The first byte is split off, and as many more as there are to be.
      rw [split?, Option.map_eq_some_iff] at split
      obtain ⟨⟨more, behind⟩, later, same⟩ := split
      cases same
      obtain ⟨length, rfl⟩ := ih later
      exact ⟨congrArg (· + 1) length, rfl⟩

/-- Bytes that are split off spell a number of their width. -/
theorem ofNat_split {width : Nat} {bytes taken rest : Bytes}
    (split : split? width bytes = some (taken, rest)) :
    Bytes.toNat taken < Bytes.bound width ∧
      bytes = Bytes.ofNat width (Bytes.toNat taken) ++ rest := by
  -- A number is its bytes, as many as were split off.
  obtain ⟨length, whole⟩ := split?_eq_some split
  subst length
  rw [Bytes.ofNat_toNat]
  exact ⟨Bytes.toNat_lt taken, whole⟩

namespace Layout

variable {α β : Type}

/--
A layout is exact for some values: each of them is restored, and reading finds no others, and none
in bytes that do not begin with its writing.
-/
structure Exact (layout : Layout α) (fits : α → Prop) : Prop where
  restores : ∀ value, fits value → layout.Restores value
  found : ∀ {bytes value rest}, layout.get bytes = .ok (value, rest) →
    fits value ∧ bytes = layout.put value ++ rest

namespace Exact

variable {layout : Layout α} {fits : α → Prop}

/-- Bytes are read as a value exactly if they begin with the writing of one that fits. -/
theorem get_eq_ok_iff (exact : layout.Exact fits) {bytes rest : Bytes} {value : α} :
    layout.get bytes = .ok (value, rest) ↔ fits value ∧ bytes = layout.put value ++ rest := by
  -- One direction is what the layout finds, and the other what it restores.
  constructor
  · exact exact.found
  · rintro ⟨fitting, rfl⟩
    exact exact.restores value fitting rest

/-- What fits may be said in another way. -/
theorem congr (exact : layout.Exact fits) {fits' : α → Prop}
    (same : ∀ value, fits value ↔ fits' value) : layout.Exact fits' :=
  ⟨fun value fitting => exact.restores value ((same value).mpr fitting),
    fun read => (exact.found read).imp_left (same _).mp⟩

/-- Conversions that undo each other keep a layout exact. -/
theorem via {build : α → β} {view : β → α} (exact : layout.Exact fits)
    (undone : ∀ value, build (view value) = value)
    (seen : ∀ value, fits value → view (build value) = value) :
    (layout.via build view).Exact fun value => fits (view value) := by
  -- Restoring goes down to the layout below, and finding comes up from it.
  refine ⟨fun value fitting => (exact.restores _ fitting).via (undone value), ?_⟩
  intro bytes value rest read
  obtain ⟨⟨inner, _⟩, below, same⟩ := Except.map_eq_ok read
  cases same
  -- The conversion back finds the value that was read below.
  obtain ⟨fitting, whole⟩ := exact.found below
  simp only [Layout.via, seen inner fitting]
  exact ⟨fitting, whole⟩

end Exact

/-- Numbers are exact if they fit their width. -/
theorem exact_natural (width : Nat) : (natural width).Exact fun n => n < Bytes.bound width := by
  -- What is found are the bytes that were split off.
  refine ⟨fun _ fits => restores_natural fits, ?_⟩
  intro bytes n rest read
  simp only [natural] at read
  split at read
  · cases read
  · rename_i taken front
    cases read
    exact ofNat_split front

/-- Truth values are exact. -/
theorem exact_flag : flag.Exact fun _ => True := by
  -- Only the two bytes that truth values have are accepted.
  refine ⟨fun value _ => restores_flag value, ?_⟩
  intro bytes value rest read
  refine ⟨trivial, ?_⟩
  cases bytes with
  | nil => cases read
  | cons b bytes =>
    simp only [flag] at read ⊢
    -- The byte is zero, or one, or refused.
    split at read
    · rename_i zero
      cases read
      rw [zero]
      rfl
    split at read
    · rename_i one
      cases read
      rw [one]
      rfl
    · cases read

/-- Texts are exact if their lengths can be counted. -/
theorem exact_text : text.Exact Countable := by
  -- A text is found if its counter, its body and its decoding are.
  refine ⟨fun _ countable => restores_text countable, ?_⟩
  intro bytes value rest read
  simp only [text] at read ⊢
  split at read
  · cases read
  rename_i counter behind front
  split at read
  · cases read
  rename_i body after middle
  split at read
  · cases read
  rename_i decoded
  cases read
  -- The counter spells the length of the body, and the body is the text's only writing.
  obtain ⟨bounded, rfl⟩ := ofNat_split front
  obtain ⟨length, rfl⟩ := split?_eq_some middle
  rw [Utf8.decode_eq_ok_iff] at decoded
  rw [Countable, ← decoded, length, List.append_assoc]
  exact ⟨bounded, rfl⟩

/-- Values that may be missing are exact if those that are there are. -/
theorem Exact.optional {item : Layout α} {fits : α → Prop} (exact : item.Exact fits) :
    (item.optional).Exact fun value => ∀ present ∈ value, fits present := by
  -- The tag tells a missing value from one that follows.
  refine ⟨fun value fitting => .optional fun present there =>
    exact.restores present (fitting present there), ?_⟩
  intro bytes value rest read
  cases bytes with
  | nil => cases read
  | cons b bytes =>
    simp only [Layout.optional] at read ⊢
    -- The tag is zero, or one before a value, or refused.
    split at read
    · rename_i zero
      cases read
      rw [zero]
      refine ⟨fun _ member => ?_, rfl⟩
      cases member
    split at read
    · rename_i one
      obtain ⟨⟨present, _⟩, below, same⟩ := Except.map_eq_ok read
      cases same
      obtain ⟨fitting, rfl⟩ := exact.found below
      rw [one]
      refine ⟨fun _ member => ?_, rfl⟩
      cases member
      exact fitting
    · cases read

/-- Values one after the other are exact if both are. -/
theorem Exact.pair {first : Layout α} {second : Layout β} {left : α → Prop} {right : β → Prop}
    (front : first.Exact left) (back : second.Exact right) :
    (first.pair second).Exact fun value => left value.1 ∧ right value.2 := by
  -- What the first layout leaves is read by the second one.
  refine ⟨fun value fitting => .pair (front.restores value.1 fitting.1)
    (back.restores value.2 fitting.2), ?_⟩
  intro bytes value rest read
  simp only [Layout.pair] at read ⊢
  split at read
  · cases read
  rename_i a behind one
  obtain ⟨⟨b, _⟩, two, same⟩ := Except.map_eq_ok read
  cases same
  obtain ⟨fitting, rfl⟩ := front.found one
  obtain ⟨other, rfl⟩ := back.found two
  exact ⟨⟨fitting, other⟩, (List.append_assoc ..).symm⟩

/-- Nothing at all is exact. -/
theorem exact_empty : empty.Exact fun _ => True := by
  -- It takes no bytes and leaves them all.
  refine ⟨fun _ _ _ => rfl, ?_⟩
  intro bytes value rest read
  cases read
  exact ⟨trivial, rfl⟩

/-- As many values as are read in a row have been written in a row. -/
theorem getMany_eq_ok {item : Layout α} {fits : α → Prop} (exact : item.Exact fits) {count : Nat}
    {bytes rest : Bytes} {values : List α} (read : getMany item count bytes = .ok (values, rest)) :
    values.length = count ∧ (∀ value ∈ values, fits value) ∧
      bytes = values.flatMap item.put ++ rest := by
  -- The values are taken from the front, one by one.
  induction count generalizing bytes values with
  | zero =>
    cases read
    exact ⟨rfl, nofun, rfl⟩
  | succ count ih =>
    rw [getMany] at read
    split at read
    · cases read
    rename_i value behind here
    split at read
    · cases read
    rename_i later after others
    cases read
    obtain ⟨fitting, rfl⟩ := exact.found here
    obtain ⟨length, all, rfl⟩ := ih others
    refine ⟨congrArg (· + 1) length, List.forall_mem_cons.mpr ⟨fitting, all⟩, ?_⟩
    rw [List.flatMap_cons, List.append_assoc]

/-- Sequences are exact if their number can be counted, and all their values are exact. -/
theorem Exact.list {item : Layout α} {fits : α → Prop} (exact : item.Exact fits) :
    (item.list).Exact fun values => values.length < UInt64.size ∧ ∀ value ∈ values, fits value := by
  -- The counter is found first, and it says how many values are read.
  refine ⟨fun values fitting => .list fitting.1 fun value member =>
    exact.restores value (fitting.2 value member), ?_⟩
  intro bytes values rest read
  simp only [Layout.list] at read ⊢
  split at read
  · cases read
  rename_i counter behind front
  obtain ⟨bounded, rfl⟩ := ofNat_split front
  obtain ⟨length, all, rfl⟩ := getMany_eq_ok exact read
  rw [length, List.append_assoc]
  exact ⟨⟨bounded, all⟩, rfl⟩

end Layout

end Binary

end SentinelRounds
