import SentinelRounds.Depot.Contract

/-! The plain item: a byte string under a key. -/

namespace SentinelRounds

/-- A byte string under a key. -/
structure Parcel where
  key : String := ""
  body : Bytes := []
  deriving DecidableEq, Repr, Inhabited

namespace Parcel

/-- How parcels are encoded; a body is a sequence of numbers. -/
def schema : Schema Parcel :=
  .record "Parcel"
    (.field "key" .text none <| .field "body" (.list .word8) none .done)
    (fun (key, body, ()) => ⟨key, body⟩)
    (fun parcel => (parcel.key, parcel.body, ()))

/-- The batch of a body at an offset, and where the next one starts unless none is left. -/
def batchAt (body : Bytes) (offset batch : Nat) : Bytes × Option Nat :=
  -- The last batch may be short, and a batch of no bytes never moves on.
  if body.length ≤ offset then ([], none)
  else
    let stop := min (offset + batch) body.length
    ((body.drop offset).take (stop - offset), some stop)

instance : Transferable Parcel where
  descriptor parcel batch := Descriptor.ofSize parcel.key parcel.body.length batch
  serialize parcel offset batch := batchAt parcel.body offset batch
  absorb parcel chunk := (.ok (), { parcel with body := parcel.body ++ chunk })

instance : Reversible Parcel where
  reversed parcel := { parcel with body := parcel.body.reverse }

/--
The batches of a parcel from its start, each with the offset at which the next one starts; the walk
ends where the body is exhausted or the offset does not move.
-/
def walk (parcel : Parcel) (batch : Nat) : (fuel : Nat) → (offset : Nat) → List (Nat × Bytes)
  -- Every batch but the last moves the offset forward within the body.
  | 0, _ => []
  | fuel + 1, offset =>
    match batchAt parcel.body offset batch with
    | (_, none) => []
    | (bytes, some next) =>
      (next, bytes) :: if next = offset then [] else walk parcel batch fuel next

end Parcel

end SentinelRounds
