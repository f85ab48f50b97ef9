import SentinelRounds.Depot.Keyed
import SentinelRounds.Depot.Parcel

/-! A depot in memory: for each registered peer, its parcels by key. -/

namespace SentinelRounds

/-- The parcels of every registered peer, and who may register. -/
structure MemoryDepot where
  targets : Keyed String (Keyed String Parcel) := .empty
  /-- The ids that may register; nothing here means that every peer may. -/
  admitted : Option (List String) := none
  deriving DecidableEq, Repr

namespace MemoryDepot

/-- A depot that registers every peer. -/
def unrestricted : MemoryDepot := {}

/-- A depot that registers only the listed ids. -/
def restricted (ids : List String) : MemoryDepot := { admitted := some ids }

/-- The parcel merged for a peer under a key. -/
def get? (depot : MemoryDepot) (id key : String) : Option Parcel :=
  -- A peer that is not registered has no parcels at all.
  (depot.targets.get? id).bind fun parcels => parcels.get? key

/-- Every parcel merged for a peer, in the order of their keys. -/
def parcels (depot : MemoryDepot) (id : String) : List Parcel :=
  match depot.targets.get? id with
  | some parcels => parcels.values
  | none => []

/-- The number of registered peers. -/
def peers (depot : MemoryDepot) : Nat := depot.targets.size

/-- Whether a peer may register. -/
def admits (depot : MemoryDepot) (id : String) : Bool :=
  -- The list matters for registering only, not for peers that are registered already.
  match depot.admitted with
  | some ids => ids.contains id
  | none => true

/-- Registers a peer; one that is registered already keeps its parcels. -/
def register (depot : MemoryDepot) (identity : Identity) : Verdict × MemoryDepot :=
  if depot.admits identity.id then
    let held := (depot.targets.get? identity.id).getD .empty
    (.accepted s!"Registered {identity.name} ({identity.id})",
      { depot with targets := depot.targets.insert identity.id held })
  else (.rejected s!"Registration denied for {identity.name} ({identity.id})", depot)

/-- An empty parcel under the announced key, if the peer is registered. -/
def locate (depot : MemoryDepot) (identity : Identity) (descriptor : Descriptor) :
    Except RoundFault Parcel :=
  -- Room for the whole body is made at once, and the peer alone says how much that is.
  if depot.targets.contains identity.id then
    if descriptor.size.toNat < allocationBound then .ok ⟨descriptor.key, []⟩
    else .error (.noMemory descriptor.size.toNat)
  else .error (.missingTarget identity.id)

/-- Stores a parcel for a registered peer, in place of any other under its key. -/
def merge (depot : MemoryDepot) (identity : Identity) (parcel : Parcel) :
    Except RoundFault Unit × MemoryDepot :=
  -- Parcels of other peers are left alone, whatever their keys.
  match depot.targets.get? identity.id with
  | none => (.error (.missingTarget identity.id), depot)
  | some parcels =>
    (.ok (), { depot with
      targets := depot.targets.insert identity.id (parcels.insert parcel.key parcel) })

instance : Depot MemoryDepot Parcel where
  contains depot identity := depot.targets.contains identity.id
  register := register
  locate := locate
  merge := merge

end MemoryDepot

end SentinelRounds
