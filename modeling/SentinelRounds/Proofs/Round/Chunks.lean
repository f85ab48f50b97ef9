import SentinelRounds.Depot.Parcel
import SentinelRounds.Round.Send

/-! The chunks that a parcel travels in. -/

namespace SentinelRounds

namespace Descriptor

/-- There is at least one chunk. -/
theorem chunkCount_pos (size batch : Nat) : 0 < chunkCount size batch := by
  -- An empty body counts as one chunk.
  unfold chunkCount
  omega

/-- Every chunk but the first starts within the body. -/
theorem start_lt {size batch index : Nat} (positive : 0 < batch)
    (within : index < chunkCount size batch) (later : 0 < index ∨ 0 < size) :
    index * batch < size := by
  -- The number of chunks is the size divided by the batch, rounded up, unless the size is zero.
  have quotient : index < (size + batch - 1) / batch := by
    unfold chunkCount at within
    rcases Nat.eq_zero_or_pos index with rfl | more
    · refine Nat.div_pos ?_ positive
      omega
    · omega
  -- So all chunks up to this one together are no longer than the rounded size.
  have product : (index + 1) * batch ≤ size + batch - 1 :=
    (Nat.le_div_iff_mul_le positive).mp quotient
  rw [Nat.succ_mul] at product
  omega

/-- The chunks together take in the whole body. -/
theorem size_le_chunks (size : Nat) {batch : Nat} (positive : 0 < batch) :
    size ≤ chunkCount size batch * batch := by
  -- Rounding up loses nothing of the size.
  have quotient : (size + batch - 1) / batch ≤ chunkCount size batch := by
    unfold chunkCount
    omega
  have product := Nat.mul_le_mul_right batch quotient
  -- What the division leaves is less than one batch.
  have parts := Nat.div_add_mod (size + batch - 1) batch
  have rest := Nat.mod_lt (size + batch - 1) positive
  rw [Nat.mul_comm] at parts
  omega

end Descriptor

namespace Parcel

/-- How many chunks the parcel takes. -/
def chunkCount (batch : Nat) (parcel : Parcel) : Nat :=
  Descriptor.chunkCount parcel.body.length batch

/-- The body bytes of a chunk. -/
def piece (batch : Nat) (parcel : Parcel) (index : Nat) : Bytes :=
  (parcel.body.drop (index * batch)).take batch

/-- A chunk as it is received: its bytes, and whether it is the parcel's last. -/
def chunk (batch : Nat) (parcel : Parcel) (index : Nat) : Round.Inbound :=
  ⟨parcel.piece batch index, if parcel.chunkCount batch ≤ index + 1 then .final else .block⟩

/-- The chunks from one on. -/
def chunksFrom (batch : Nat) (parcel : Parcel) (index : Nat) : List Round.Inbound :=
  (List.range' index (parcel.chunkCount batch - index)).map (parcel.chunk batch)

/-- The parcel with as much of its body as some chunks carry. -/
def upTo (batch : Nat) (parcel : Parcel) (index : Nat) : Parcel :=
  { parcel with body := parcel.body.take (index * batch) }

/-- The announcement of a parcel whose chunks can be counted. -/
def announced (batch : Nat) (parcel : Parcel) : Descriptor :=
  ⟨parcel.key, UInt64.ofNat parcel.body.length, UInt32.ofNat (parcel.chunkCount batch)⟩

/-- The first of some chunks, and the others. -/
theorem chunksFrom_cons {batch index : Nat} {parcel : Parcel}
    (within : index < parcel.chunkCount batch) :
    parcel.chunksFrom batch index =
      parcel.chunk batch index :: parcel.chunksFrom batch (index + 1) := by
  -- The indices are taken one by one from the front.
  obtain ⟨more, count⟩ : ∃ more, parcel.chunkCount batch - index = more + 1 :=
    ⟨parcel.chunkCount batch - index - 1, by omega⟩
  have others : parcel.chunkCount batch - (index + 1) = more := by omega
  rw [chunksFrom, chunksFrom, count, others, List.range'_succ, List.map_cons]

/-- After the last chunk there are none. -/
theorem chunksFrom_end {batch index : Nat} {parcel : Parcel}
    (past : parcel.chunkCount batch ≤ index) : parcel.chunksFrom batch index = [] := by
  -- Nothing is left of the range of indices.
  rw [chunksFrom, Nat.sub_eq_zero_of_le past]
  rfl

/-- Chunks are closed by one of the two closing values. -/
theorem chunk_closes (batch : Nat) (parcel : Parcel) (index : Nat) :
    (parcel.chunk batch index).kind.closes = true := by
  -- The last chunk has one of them, and all the others have the other one.
  unfold chunk
  split <;> rfl

/-- A chunk carries no more than a batch. -/
theorem length_piece_le (batch : Nat) (parcel : Parcel) (index : Nat) :
    (parcel.piece batch index).length ≤ batch := List.length_take_le _ _

/-- One more chunk brings the body as much further. -/
theorem upTo_succ (batch : Nat) (parcel : Parcel) (index : Nat) :
    { parcel.upTo batch index with
        body := (parcel.upTo batch index).body ++ parcel.piece batch index } =
      parcel.upTo batch (index + 1) := by
  -- The first batches and one more are so many batches and one.
  simp only [upTo, piece, Parcel.mk.injEq, true_and]
  rw [Nat.succ_mul, List.take_add]

/-- Before the first chunk there is only the key. -/
theorem upTo_zero (batch : Nat) (parcel : Parcel) : parcel.upTo batch 0 = ⟨parcel.key, []⟩ := by
  rw [upTo, Nat.zero_mul, List.take_zero]

/-- All chunks make up the parcel. -/
theorem upTo_all {batch : Nat} (positive : 0 < batch) {parcel : Parcel} {index : Nat}
    (past : parcel.chunkCount batch ≤ index) : parcel.upTo batch index = parcel := by
  -- So many batches take in the whole body.
  have whole := Descriptor.size_le_chunks parcel.body.length positive
  have reaches := Nat.mul_le_mul_right batch past
  unfold chunkCount at reaches
  rw [upTo, List.take_of_length_le (by omega)]

/--
A batch read where a chunk starts is that chunk, and the next one starts where it ends; only the one
chunk of an empty body is not read.
-/
theorem batchAt_start {batch index : Nat} (positive : 0 < batch) {parcel : Parcel}
    (within : index < parcel.chunkCount batch) :
    (batchAt parcel.body (index * batch) batch = ([], none) ∧ parcel.piece batch index = [] ∧
      parcel.chunkCount batch = 1) ∨
    ∃ next, batchAt parcel.body (index * batch) batch = (parcel.piece batch index, some next) ∧
      (index + 1 < parcel.chunkCount batch → next = (index + 1) * batch) := by
  -- The chunk starts at the end of the body, or within it.
  unfold batchAt
  split
  · -- Only the first chunk can start where the body ends.
    rename_i past
    refine .inl ⟨rfl, ?_, ?_⟩
    · rw [piece, List.drop_of_length_le past, List.take_nil]
    · have zero : ¬ (0 < index ∨ 0 < parcel.body.length) := fun later => by
        have start := Descriptor.start_lt positive within later
        omega
      have empty : parcel.body.length = 0 := by omega
      have none : (0 + batch - 1) / batch = 0 := Nat.div_eq_of_lt (by omega)
      rw [chunkCount, Descriptor.chunkCount, empty, none]
      rfl
  · -- Otherwise the batch starts within the body, and ends with it if not before.
    rename_i inside
    refine .inr ⟨min (index * batch + batch) parcel.body.length, ?_, ?_⟩
    · have length : (parcel.body.drop (index * batch)).length =
          parcel.body.length - index * batch := List.length_drop
      -- The batch is a whole one, or the rest of the body.
      rcases Nat.le_total (index * batch + batch) parcel.body.length with whole | part
      · have count : min (index * batch + batch) parcel.body.length - index * batch = batch := by
          omega
        simp only [piece, count]
      · have count : min (index * batch + batch) parcel.body.length - index * batch =
            parcel.body.length - index * batch := by omega
        have all : (parcel.body.drop (index * batch)).length ≤ batch := by omega
        simp only [piece, count, List.take_of_length_le (Nat.le_of_eq length),
          List.take_of_length_le all]
    · -- If another chunk follows, this one is a whole batch.
      intro more
      have start := Descriptor.start_lt positive more (.inl (Nat.succ_pos index))
      rw [Nat.succ_mul] at start ⊢
      omega

end Parcel

/--
A place in a message: the parcels before the one under way, which of its chunks comes next, and the
parcels after it.
-/
structure Place where
  before : List Parcel
  parcel : Parcel
  index : Nat
  later : List Parcel

namespace Place

/-- The place where a message starts, if it has anything. -/
def first : List Parcel → Option Place
  | [] => none
  | parcel :: later => some ⟨[], parcel, 0, later⟩

/-- All parcels of the message. -/
def items (place : Place) : List Parcel := place.before ++ place.parcel :: place.later

/-- The chunk that comes next. -/
def chunk (batch : Nat) (place : Place) : Round.Inbound := place.parcel.chunk batch place.index

/-- Whether the chunk that comes next is the last one of its parcel. -/
def Closing (batch : Nat) (place : Place) : Prop :=
  place.parcel.chunkCount batch ≤ place.index + 1

instance (batch : Nat) (place : Place) : Decidable (place.Closing batch) :=
  inferInstanceAs (Decidable (_ ≤ _))

/-- The place after the chunk that comes next, if the message has more. -/
def next (batch : Nat) (place : Place) : Option Place :=
  if place.Closing batch then
    match place.later with
    | [] => none
    | parcel :: later => some ⟨place.before ++ [place.parcel], parcel, 0, later⟩
  else some { place with index := place.index + 1 }

/-- A place in a message of some parcels, at a chunk that its parcel has. -/
structure In (batch : Nat) (items : List Parcel) (place : Place) : Prop where
  whole : place.items = items
  within : place.index < place.parcel.chunkCount batch

/-- The chunks from a place to the end of its message. -/
def chunks (batch : Nat) (place : Place) : List Round.Inbound :=
  place.parcel.chunksFrom batch place.index ++ place.later.flatMap (Parcel.chunksFrom batch · 0)

/-- The last chunk of a parcel, and no other, is marked as final. -/
theorem final_iff (batch : Nat) (place : Place) :
    (place.chunk batch).kind = .final ↔ place.Closing batch := by
  -- The marker is chosen by the same test.
  unfold chunk Parcel.chunk Closing
  split
  · rename_i closing
    exact iff_of_true rfl closing
  · rename_i more
    exact iff_of_false nofun more

/-- A message starts at a place in it. -/
theorem in_first (batch : Nat) {items : List Parcel} {place : Place}
    (start : first items = some place) : place.In batch items := by
  -- Every parcel has at least one chunk to start with.
  cases items with
  | nil => cases start
  | cons parcel later =>
    cases start
    exact ⟨rfl, Descriptor.chunkCount_pos _ _⟩

/-- The place after a place is in the same message. -/
theorem In.next {batch : Nat} {items : List Parcel} {place after : Place}
    (inside : place.In batch items) (follows : place.next batch = some after) :
    after.In batch items := by
  -- The next place is in the same parcel, or in the next one.
  obtain ⟨whole, within⟩ := inside
  obtain ⟨before, parcel, index, later⟩ := place
  unfold Place.next at follows
  split at follows
  · -- After a last chunk comes the first one of the next parcel.
    cases later with
    | nil => cases follows
    | cons other later =>
      cases follows
      refine ⟨?_, Descriptor.chunkCount_pos _ _⟩
      rw [← whole, Place.items, Place.items, List.append_assoc]
      rfl
  · -- Before the last chunk the parcel stays the same.
    rename_i more
    cases follows
    exact ⟨whole, Nat.lt_of_not_le more⟩

/-- The chunks from a place on are its own and those from the place after it. -/
theorem chunks_eq {batch : Nat} {items : List Parcel} {place : Place}
    (inside : place.In batch items) :
    place.chunks batch = place.chunk batch :: (place.next batch).elim [] (chunks batch) := by
  -- The parcel under way comes first, and then the later ones.
  obtain ⟨before, parcel, index, later⟩ := place
  rw [chunks, Parcel.chunksFrom_cons inside.within, List.cons_append]
  unfold Place.next
  split
  · -- A last chunk leaves no others of its parcel.
    rename_i closing
    rw [Parcel.chunksFrom_end closing, List.nil_append]
    cases later with
    | nil => rfl
    | cons other later => rfl
  · rfl

/-- The chunks of a whole message. -/
theorem chunks_first (batch : Nat) (items : List Parcel) :
    (first items).elim [] (chunks batch) = items.flatMap (Parcel.chunksFrom batch · 0) := by
  -- Without parcels there are no chunks.
  cases items with
  | nil => rfl
  | cons parcel later => rfl

/-- The parcel under way stands behind the ones before it. -/
theorem In.getElem {batch : Nat} {items : List Parcel} {place : Place}
    (inside : place.In batch items) : items[place.before.length]? = some place.parcel := by
  -- So many parcels are in front of it.
  rw [← inside.whole, Place.items, List.getElem?_append_right (Nat.le_refl _), Nat.sub_self]
  rfl

end Place

end SentinelRounds
