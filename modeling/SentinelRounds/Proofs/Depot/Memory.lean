import SentinelRounds.Depot.Memory

/-! What a depot in memory holds after parcels have been merged into it. -/

namespace SentinelRounds

namespace Keyed

variable {κ α : Type} [BEq κ] [LawfulBEq κ] [DecidableEq κ] [LT κ] [DecidableLT κ]

/-- An entry that is put in is found under its key, and no other key notices. -/
theorem lookup_insertEntry (key other : κ) (value : α) (entries : List (κ × α)) :
    (insertEntry key value entries).lookup other =
      if other = key then some value else entries.lookup other := by
  -- Only entries that are passed over stand before the new one.
  have passed : other ≠ key → ∀ rest, ((key, value) :: rest).lookup other = rest.lookup other := by
    intro differs rest
    rw [List.lookup_cons, beq_false_of_ne differs]
  induction entries with
  | nil =>
    by_cases same : other = key
    · simp [insertEntry, same]
    · rw [insertEntry, passed same, if_neg same]
  | cons entry rest ih =>
    -- The entry in front has the same key, a later one, or is passed over.
    obtain ⟨held, kept⟩ := entry
    unfold insertEntry
    by_cases same : other = key
    · subst same
      rw [if_pos rfl]
      split
      · simp
      · rename_i differs
        split
        · simp
        · rw [List.lookup_cons, ih, beq_false_of_ne differs, if_pos rfl]
    · rw [if_neg same] at ih ⊢
      split
      · rename_i equal
        rw [passed same, List.lookup_cons, beq_false_of_ne (equal ▸ same)]
      · split
        · exact passed same _
        · rw [List.lookup_cons, List.lookup_cons, ih]

/-- A value that is put in is found under its key, and no other key notices. -/
theorem get?_insert (map : Keyed κ α) (key other : κ) (value : α) :
    (map.insert key value).get? other = if other = key then some value else map.get? other :=
  lookup_insertEntry key other value map.entries

omit [LT κ] [DecidableLT κ] in
/-- A key that is erased has no value any more, and no other key notices. -/
theorem get?_erase (map : Keyed κ α) (key other : κ) :
    (map.erase key).get? other = if other = key then none else map.get? other := by
  -- Entries under other keys are passed over, kept or not.
  simp only [get?, erase]
  induction map.entries with
  | nil => simp
  | cons entry rest ih =>
    obtain ⟨held, kept⟩ := entry
    rw [List.filter_cons]
    by_cases here : other = held
    · subst here
      by_cases same : other = key
      · simp [same] at ih ⊢
        exact ih
      · simp [same]
    · split
      · rw [List.lookup_cons, List.lookup_cons, beq_false_of_ne here, ih]
      · rw [List.lookup_cons, beq_false_of_ne here, ih]

end Keyed

namespace MemoryDepot

/-- Whether a peer has a place in a depot, or may have one. -/
def Welcomes (depot : MemoryDepot) (identity : Identity) : Prop :=
  depot.targets.contains identity.id = true ∨ depot.admits identity.id = true

/-- A depot after some parcels have been merged for a peer in order. -/
def mergeAll (depot : MemoryDepot) (identity : Identity) (parcels : List Parcel) : MemoryDepot :=
  parcels.foldl (fun depot parcel => (depot.merge identity parcel).2) depot

/-- The last of some parcels under a key. -/
def lastOf (parcels : List Parcel) (key : String) : Option Parcel :=
  parcels.reverse.find? fun parcel => parcel.key = key

/-- A peer that has a place keeps it when a parcel is merged, and the parcel is found there. -/
theorem merge_contained {depot : MemoryDepot} {identity : Identity}
    (contained : depot.targets.contains identity.id = true) (parcel : Parcel) :
    ∃ after, depot.merge identity parcel = (.ok (), after) ∧
      after.targets.contains identity.id = true ∧
      ∀ key, after.get? identity.id key =
        if key = parcel.key then some parcel else depot.get? identity.id key := by
  -- A peer with a place has parcels, if only none at all.
  rw [Keyed.contains, Option.isSome_iff_exists] at contained
  obtain ⟨parcels, held⟩ := contained
  refine ⟨_, by rw [merge, held], ?_, fun key => ?_⟩
  · simp only [Keyed.contains, Keyed.get?_insert, if_true, Option.isSome_some]
  · simp only [get?, Keyed.get?_insert, if_true, held, Option.bind_some]

/-- The last of some parcels with one more in front. -/
theorem lastOf_cons (parcel : Parcel) (parcels : List Parcel) (key : String) :
    lastOf (parcel :: parcels) key =
      (lastOf parcels key).or (if key = parcel.key then some parcel else none) := by
  -- The parcel in front counts only if no later one has the key.
  rw [lastOf, List.reverse_cons, List.find?_append, lastOf]
  by_cases same : parcel.key = key
  · simp [same]
  · simp [same, Ne.symm same]

/-- The last of two rows of parcels is the last of the second row, if that has one. -/
theorem lastOf_append (first second : List Parcel) (key : String) :
    lastOf (first ++ second) key = (lastOf second key).or (lastOf first key) := by
  rw [lastOf, List.reverse_append, List.find?_append, lastOf, lastOf]

/--
Parcels merged for a peer that has a place are found there, the last one under each key; what the
peer had under other keys it keeps.
-/
theorem mergeAll_contained {depot : MemoryDepot} {identity : Identity}
    (contained : depot.targets.contains identity.id = true) (parcels : List Parcel) :
    (depot.mergeAll identity parcels).targets.contains identity.id = true ∧
      ∀ key, (depot.mergeAll identity parcels).get? identity.id key =
        (lastOf parcels key).or (depot.get? identity.id key) := by
  -- Each parcel hides what was there under its key, and no later one shows it again.
  induction parcels generalizing depot with
  | nil => exact ⟨contained, fun _ => rfl⟩
  | cons parcel parcels ih =>
    obtain ⟨after, merged, still, found⟩ := merge_contained contained parcel
    have step : depot.mergeAll identity (parcel :: parcels) = after.mergeAll identity parcels := by
      rw [mergeAll, List.foldl_cons, merged, mergeAll]
    obtain ⟨place, rest⟩ := ih still
    refine ⟨by rw [step]; exact place, fun key => ?_⟩
    rw [step, rest, found, lastOf_cons, Option.or_assoc]
    congr 1
    split
    · rfl
    · rfl

/--
Parcels merged for a peer that has a place are what is found for it, the last one under each key;
nothing else in the depot has changed, for this peer or for any other.
-/
theorem get?_mergeAll {depot : MemoryDepot} {identity : Identity}
    (contained : depot.targets.contains identity.id = true) (parcels : List Parcel)
    (id key : String) :
    (depot.mergeAll identity parcels).get? id key =
      if id = identity.id then (lastOf parcels key).or (depot.get? id key)
      else depot.get? id key := by
  -- For the peer itself the merges are added up; the others are not reached.
  by_cases own : id = identity.id
  · subst own
    rw [if_pos rfl]
    exact (mergeAll_contained contained parcels).2 key
  · -- A merge for one peer does not reach the place of another.
    rw [if_neg own]
    clear contained
    induction parcels generalizing depot with
    | nil => rfl
    | cons parcel parcels ih =>
      have step : (depot.merge identity parcel).2.get? id key = depot.get? id key := by
        unfold merge
        split
        · rfl
        · rw [get?, Keyed.get?_insert, if_neg own, get?]
      exact ih.trans step

/-- One more parcel is merged after the others. -/
theorem mergeAll_concat (depot : MemoryDepot) (identity : Identity) (parcels : List Parcel)
    (parcel : Parcel) :
    depot.mergeAll identity (parcels ++ [parcel]) =
      ((depot.mergeAll identity parcels).merge identity parcel).2 := by
  -- The fold takes the parcels from the front.
  rw [mergeAll, List.foldl_append]
  rfl

/-- A peer that registers gets a place and keeps what it had. -/
theorem register_admitted {depot : MemoryDepot} {identity : Identity}
    (admitted : depot.admits identity.id = true) :
    ∃ notice after, depot.register identity = (.accepted notice, after) ∧
      after.targets.contains identity.id = true ∧
      ∀ key, after.get? identity.id key = depot.get? identity.id key := by
  -- A new place is empty, and an old one keeps its parcels.
  refine ⟨_, _, by rw [register, if_pos admitted], ?_, fun key => ?_⟩
  · simp only [Keyed.contains, Keyed.get?_insert, if_true, Option.isSome_some]
  · simp only [get?, Keyed.get?_insert, if_true, Option.bind_some]
    cases depot.targets.get? identity.id with
    | none => rfl
    | some parcels => rfl

/-- Registering a peer changes no parcel of anyone. -/
theorem get?_register (depot : MemoryDepot) (identity : Identity) (id key : String) :
    (depot.register identity).2.get? id key = depot.get? id key := by
  -- A peer that is not admitted leaves the depot as it was.
  unfold register
  split
  · -- The peer keeps what it had, and the others are not touched.
    simp only [get?, Keyed.get?_insert]
    split
    · rename_i same
      rw [same]
      cases depot.targets.get? identity.id <;> rfl
    · rfl
  · rfl

/-- Whether some announced bodies are short enough for room to be made for each of them. -/
def Fits (descriptors : List Descriptor) : Prop :=
  ∀ descriptor ∈ descriptors, descriptor.size.toNat < allocationBound

instance (descriptors : List Descriptor) : Decidable (Fits descriptors) :=
  inferInstanceAs (Decidable (∀ descriptor ∈ descriptors, _))

/--
For a peer that has a place, the announced parcels are located as empty ones under their keys, unless
one of them is too long for any memory.
-/
theorem locateAll_contained {depot : MemoryDepot} {identity : Identity}
    (contained : depot.targets.contains identity.id = true) (descriptors : List Descriptor) :
    (Fits descriptors ∧ Depot.locateAll depot identity descriptors =
      .ok (descriptors.map fun descriptor => ⟨descriptor.key, []⟩)) ∨
    ∃ descriptor ∈ descriptors, allocationBound ≤ descriptor.size.toNat ∧
      Depot.locateAll depot identity descriptors =
        (.error (.noMemory descriptor.size.toNat) : Except RoundFault (List Parcel)) := by
  -- Room is made for one parcel after the other, up to the first that is too long.
  induction descriptors with
  | nil => exact .inl ⟨List.forall_mem_nil _, rfl⟩
  | cons descriptor rest ih =>
    by_cases short : descriptor.size.toNat < allocationBound
    · have here : Depot.locate depot identity descriptor =
          .ok (⟨descriptor.key, []⟩ : Parcel) := (if_pos contained).trans (if_pos short)
      rcases ih with ⟨fits, located⟩ | ⟨other, member, long, stopped⟩
      · refine .inl ⟨List.forall_mem_cons.mpr ⟨short, fits⟩, ?_⟩
        simp only [Depot.locateAll, here, located, List.map_cons]
      · refine .inr ⟨other, List.mem_cons_of_mem _ member, long, ?_⟩
        simp only [Depot.locateAll, here, stopped]
    · -- The parcel in front is too long itself.
      have here : Depot.locate depot identity descriptor =
          (.error (.noMemory descriptor.size.toNat) : Except RoundFault Parcel) :=
        (if_pos contained).trans (if_neg short)
      refine .inr ⟨descriptor, List.mem_cons_self, Nat.le_of_not_lt short, ?_⟩
      simp only [Depot.locateAll, here]

/-- Parcels that are short enough are located for a peer that has a place. -/
theorem locateAll_fits {depot : MemoryDepot} {identity : Identity}
    (contained : depot.targets.contains identity.id = true) {descriptors : List Descriptor}
    (fits : Fits descriptors) :
    Depot.locateAll depot identity descriptors =
      .ok (descriptors.map fun descriptor => ⟨descriptor.key, []⟩) := by
  -- None of them is the one that stops the others.
  rcases locateAll_contained contained descriptors with ⟨_, located⟩ | ⟨other, member, long, _⟩
  · exact located
  · exact absurd (fits other member) (Nat.not_lt_of_le long)

/-- A depot that locates some items of a peer has a place for that peer. -/
theorem contains_of_locateAll {depot : MemoryDepot} {identity : Identity}
    {announced : List Descriptor} {items : List Parcel} (some : announced ≠ [])
    (located : Depot.locateAll depot identity announced = .ok items) :
    depot.targets.contains identity.id = true := by
  -- Without a place, the first item is not located.
  refine Decidable.byContradiction fun absent => ?_
  cases announced with
  | nil => exact some rfl
  | cons item rest =>
    have missing : Depot.locate depot identity item =
        (.error (.missingTarget identity.id) : Except RoundFault Parcel) := if_neg absent
    simp only [Depot.locateAll, missing] at located
    cases located

/-- Parcels that are located are empty ones under the announced keys. -/
theorem eq_of_locateAll {depot : MemoryDepot} {identity : Identity}
    {announced : List Descriptor} {items : List Parcel}
    (located : Depot.locateAll depot identity announced = .ok items) :
    items = announced.map fun descriptor => ⟨descriptor.key, []⟩ := by
  -- For no parcels at all the peer needs no place.
  by_cases none : announced = []
  · subst none
    cases located
    rfl
  · rcases locateAll_contained (contains_of_locateAll none located) announced with
      ⟨_, same⟩ | ⟨_, _, _, stopped⟩
    · rw [located] at same
      exact Except.ok.inj same
    · rw [located] at stopped
      cases stopped

end MemoryDepot

end SentinelRounds
