import SentinelRounds.Proofs.Depot.Memory

/-! What a depot in memory does for one peer neither depends on other peers nor shows to them. -/

namespace SentinelRounds

namespace MemoryDepot

/-- Depots that hold the same for some ids, and let the same peers register. -/
structure AgreeOn (ids : List String) (first second : MemoryDepot) : Prop where
  admitted : second.admitted = first.admitted
  held : ∀ id ∈ ids, second.targets.get? id = first.targets.get? id

/-- Nothing has changed in a depot but what it holds for some ids. -/
structure ChangedOnly (ids : List String) (before after : MemoryDepot) : Prop where
  admitted : after.admitted = before.admitted
  held : ∀ id ∉ ids, after.targets.get? id = before.targets.get? id

variable {ids : List String}

/-- A depot agrees with itself. -/
theorem AgreeOn.refl (ids : List String) (depot : MemoryDepot) : AgreeOn ids depot depot :=
  ⟨rfl, fun _ _ => rfl⟩

/-- Nothing changes in a depot that stays as it is. -/
theorem ChangedOnly.refl (ids : List String) (depot : MemoryDepot) : ChangedOnly ids depot depot :=
  ⟨rfl, fun _ _ => rfl⟩

/-- A change for the ids of some peers does not show to others. -/
theorem AgreeOn.changed {others : List String} {first second after : MemoryDepot}
    (agree : AgreeOn ids first second) (changed : ChangedOnly others second after)
    (apart : ∀ id ∈ ids, id ∉ others) : AgreeOn ids first after :=
  ⟨changed.admitted.trans agree.admitted, fun id member =>
    (changed.held id (apart id member)).trans (agree.held id member)⟩

section Change

variable (depot : MemoryDepot) {identity : Identity} (own : identity.id ∈ ids)
include own

/-- What is put in under an id changes nothing under the others. -/
theorem changed_insert (parcels : Keyed String Parcel) :
    ChangedOnly ids depot { depot with targets := depot.targets.insert identity.id parcels } := by
  -- The id belongs to those that may change.
  refine ⟨rfl, fun id other => ?_⟩
  have differs : id ≠ identity.id := fun same => other (same ▸ own)
  rw [Keyed.get?_insert, if_neg differs]

/-- To register a peer changes at most what is held for it. -/
theorem changed_register : ChangedOnly ids depot (depot.register identity).2 := by
  -- A peer that is not admitted leaves the depot as it was.
  unfold register
  split
  · exact depot.changed_insert own _
  · exact .refl ids depot

/-- So does to merge a parcel for it. -/
theorem changed_merge (parcel : Parcel) : ChangedOnly ids depot (depot.merge identity parcel).2 := by
  -- A parcel for a peer without a place is not taken.
  unfold merge
  split
  · exact .refl ids depot
  · exact depot.changed_insert own _

end Change

namespace AgreeOn

variable {first second : MemoryDepot} {identity : Identity} (agree : AgreeOn ids first second)
include agree

/-- Depots that agree still do so after the same is put into both. -/
theorem insert (key : String) (parcels : Keyed String Parcel) :
    AgreeOn ids { first with targets := first.targets.insert key parcels }
      { second with targets := second.targets.insert key parcels } := by
  -- Under the same key the same is found, and elsewhere what was there.
  refine ⟨agree.admitted, fun id member => ?_⟩
  rw [Keyed.get?_insert, Keyed.get?_insert, agree.held id member]

variable (own : identity.id ∈ ids)
include own

/-- Whether a peer has a place can be seen from what is held for it. -/
theorem contains_eq :
    second.targets.contains identity.id = first.targets.contains identity.id := by
  rw [Keyed.contains, Keyed.contains, agree.held _ own]

/-- A peer gets one verdict from depots that agree on it, and then they still agree. -/
theorem register : ∃ verdict one two, first.register identity = (verdict, one) ∧
    second.register identity = (verdict, two) ∧ AgreeOn ids one two := by
  -- Whether the peer is admitted and what it has are the same in both.
  have admits : second.admits identity.id = first.admits identity.id := by
    rw [admits, admits, agree.admitted]
  simp only [MemoryDepot.register, admits, agree.held _ own]
  split
  · exact ⟨_, _, _, rfl, rfl, agree.insert _ _⟩
  · exact ⟨_, _, _, rfl, rfl, agree⟩

/-- A parcel is merged into both of them, or into neither. -/
theorem merge (parcel : Parcel) : ∃ merged one two, first.merge identity parcel = (merged, one) ∧
    second.merge identity parcel = (merged, two) ∧ AgreeOn ids one two := by
  -- Whether the peer has a place is the same in both.
  simp only [MemoryDepot.merge, agree.held _ own]
  split
  · exact ⟨_, _, _, rfl, rfl, agree⟩
  · exact ⟨_, _, _, rfl, rfl, agree.insert _ _⟩

/-- An announcement is located in both of them alike. -/
theorem locateAll (announced : List Descriptor) :
    Depot.locateAll second identity announced = Depot.locateAll first identity announced := by
  -- A parcel is located by what is held for the peer, which is the same in both.
  have located : ∀ descriptor,
      Depot.locate second identity descriptor = Depot.locate first identity descriptor := by
    intro descriptor
    show second.locate identity descriptor = first.locate identity descriptor
    rw [locate, locate, agree.contains_eq own]
  induction announced with
  | nil => rfl
  | cons descriptor announced ih => simp only [Depot.locateAll, located, ih]

end AgreeOn

end MemoryDepot

end SentinelRounds
