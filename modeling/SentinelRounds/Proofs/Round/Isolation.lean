import SentinelRounds.Proofs.Depot.Locality
import SentinelRounds.Proofs.Round.Renewal
import SentinelRounds.Proofs.Round.Sharing

/-! Ends that serve different peers from one depot do not notice each other. -/

namespace SentinelRounds

namespace Round

variable {κ : Type}

/-- Whether a round merges for the given ids at most: it awaits no item, or it awaits one from them. -/
def Addresses (ids : List String) (round : Round Parcel) : Prop :=
  round.context.receiving.left = 0 ∨ ∀ peer ∈ round.context.peer, peer.id ∈ ids

/-- Whether every header that an operation brings to a round names one of the given ids. -/
def Operation.Names (ids : List String) (encoding : Encoding) (operation : Operation Parcel) :
    Prop :=
  ∀ header, operation.header? encoding = some header → header.identity.id ∈ ids

/--
The ids that a round can merge for while some operations are done to it: those of the headers that
they bring, and that of the peer from which an item is awaited.

A round that is new or has been reset awaits no item, and so it addresses the peers of headers only.
-/
def addressees (round : Round Parcel) (operations : List (Operation Parcel)) : List String :=
  let named := (Operation.headers round.context.settings.encoding operations).map (·.identity.id)
  match round.context.peer with
  | some peer => if round.context.receiving.left = 0 then named else peer.id :: named
  | none => named

/-- A round addresses its addressees. -/
theorem addresses_addressees (round : Round Parcel) (operations : List (Operation Parcel)) :
    round.Addresses (round.addressees operations) := by
  -- The peer that items are awaited from is one of the addressees.
  unfold Addresses addressees
  by_cases awaited : round.context.receiving.left = 0
  · exact .inl awaited
  · right
    intro peer known
    simp only [Option.mem_def.mp known, if_neg awaited, List.mem_cons, true_or]

/-- So does every operation among those that are done to it. -/
theorem names_addressees (round : Round Parcel) {operations : List (Operation Parcel)}
    {operation : Operation Parcel} (member : operation ∈ operations) :
    operation.Names (round.addressees operations) round.context.settings.encoding := by
  -- Every header that comes is one of those that are looked for.
  intro header brought
  have named : header.identity.id ∈
      (Operation.headers round.context.settings.encoding operations).map (·.identity.id) :=
    List.mem_map_of_mem (List.mem_filterMap.mpr ⟨operation, member, brought⟩)
  unfold addressees
  split
  · split
    · exact named
    · exact List.mem_cons_of_mem _ named
  · exact named

section Step

variable {ids : List String} (round : Round Parcel) (role : Role)

/-- A round that addresses some ids, and is brought no others, does so ever after. -/
theorem addresses_perform (depot : MemoryDepot) {operation : Operation Parcel}
    (addresses : round.Addresses ids)
    (names : operation.Names ids round.context.settings.encoding) :
    (round.perform role depot operation).2.1.Addresses ids := by
  -- The peer changes only with a header, and then it is the one that the header names.
  have met : ∀ peer ∈ operation.meets round.context.settings.encoding round.context.peer,
      peer ∈ round.context.peer ∨ peer.id ∈ ids := by
    intro peer known
    unfold Operation.meets heard at known
    split at known
    · rename_i inbound
      split at known
      · rename_i header read
        cases known
        exact .inr (names header (Operation.header?_eq_some_iff.mpr ⟨inbound, rfl, read⟩))
      · exact .inl known
    · exact .inl known
  have peer : (round.perform role depot operation).2.1.context.peer =
      operation.meets round.context.settings.encoding round.context.peer := by
    by_cases spares : operation.Spares
    · exact (intake_perform round role depot spares).2
    · cases operation with
      | read phase bytes => rw [perform_read]; rfl
      | take phase => rfl
      | reset => cases role <;> rfl
      | _ => exact absurd trivial spares
  rcases addresses with nothing | own
  · -- An item comes to be awaited only with a header that can be answered.
    rcases left_perform round role depot operation nothing with left | introduces
    · exact .inl left
    · refine .inr fun other known => ?_
      rw [peer, introduces.meets_eq _ none] at known
      obtain ⟨inbound, header, rfl, read⟩ := introduces
      simp only [Operation.meets, heard, read] at known
      cases known
      exact names header (Operation.header?_eq_some_iff.mpr ⟨inbound, rfl, read⟩)
  · refine .inr fun other known => ?_
    rw [peer] at known
    exact (met other known).elim (own other) id

/-- What a round that addresses some ids makes of a depot shows to no other peer. -/
theorem changed_perform (depot : MemoryDepot) {operation : Operation Parcel}
    (addresses : round.Addresses ids)
    (names : operation.Names ids round.context.settings.encoding) :
    MemoryDepot.ChangedOnly ids depot (round.perform role depot operation).2.2 := by
  -- A depot is changed by a peer that registers, and by a parcel that is merged.
  apply round.perform_depot (.refl ids depot) role operation
  · intro header brought
    exact depot.changed_register (names header brought)
  · intro peer item awaited known
    exact depot.changed_merge (addresses.resolve_left awaited peer known) item

variable {first second : MemoryDepot} (agree : MemoryDepot.AgreeOn ids first second)
include agree

/-- A peer is welcomed alike by depots that agree on it. -/
theorem welcome_agree {identity : Identity} (own : identity.id ∈ ids) :
    ∃ admission one two, welcome first identity = (admission, one) ∧
      welcome second identity = (admission, two) ∧ MemoryDepot.AgreeOn ids one two := by
  -- Both depots know the peer, or neither does.
  have contained : ∀ {one two : MemoryDepot}, MemoryDepot.AgreeOn ids one two →
      Depot.contains two identity = Depot.contains one identity :=
    fun agree => agree.contains_eq own
  simp only [welcome, contained agree]
  split
  · exact ⟨_, _, _, rfl, rfl, agree⟩
  · -- A peer that is not known asks both depots for a place.
    obtain ⟨verdict, one, two, mine, theirs, after⟩ := agree.register own
    have mine : Depot.register first identity = (verdict, one) := mine
    have theirs : Depot.register second identity = (verdict, two) := theirs
    rw [mine, theirs]
    cases verdict with
    | rejected reason => exact ⟨_, _, _, rfl, rfl, after⟩
    | accepted notice =>
      simp only [contained after]
      split <;> exact ⟨_, _, _, rfl, rfl, after⟩

/-- Whatever is done to a round that addresses some ids, it does not tell depots apart that agree. -/
theorem perform_agree {operation : Operation Parcel} (addresses : round.Addresses ids)
    (names : operation.Names ids round.context.settings.encoding) :
    let one := round.perform role first operation
    let two := round.perform role second operation
    two.1 = one.1 ∧ two.2.1 = one.2.1 ∧ MemoryDepot.AgreeOn ids one.2.2 two.2.2 := by
  -- A depot is asked to welcome a peer, to locate its items, and to merge them.
  apply round.perform_alike agree role operation
  · intro header brought
    have own := names header brought
    obtain ⟨admission, one, two, mine, theirs, after⟩ := welcome_agree agree own
    exact ⟨admission, one, two, mine, theirs, after, after.locateAll own header.items⟩
  · intro peer item awaited known
    obtain ⟨merged, one, two, mine, theirs, after⟩ :=
      agree.merge (addresses.resolve_left awaited peer known) item
    have mine : Depot.merge first peer item = (merged, one) := mine
    have theirs : Depot.merge second peer item = (merged, two) := theirs
    rw [mine, theirs]
    exact ⟨rfl, after⟩

end Step

/-- Two histories in which the same has been done, over depots that agree on the addressees. -/
structure History.Matches (ids : List String) (alone shared : History MemoryDepot Parcel) :
    Prop where
  round : shared.round = alone.round
  answers : shared.answers = alone.answers
  agree : MemoryDepot.AgreeOn ids alone.depot shared.depot
  addresses : alone.round.Addresses ids

/-- Histories that match go on alike. -/
theorem History.Matches.perform {ids : List String} {alone shared : History MemoryDepot Parcel}
    (fits : Matches ids alone shared) (role : Role) {operation : Operation Parcel}
    (names : operation.Names ids alone.round.context.settings.encoding) :
    Matches ids (alone.perform role operation) (shared.perform role operation) := by
  -- The two histories have one round, and depots that agree.
  obtain ⟨_, one, _⟩ := alone
  obtain ⟨base, two, said⟩ := shared
  obtain ⟨rfl, rfl, agree, addresses⟩ := fits
  obtain ⟨answer, after, agree⟩ := base.perform_agree role agree addresses names
  exact ⟨after, congrArg (said ++ [·]) answer, agree,
    base.addresses_perform role one addresses names⟩

namespace Ends

/--
Several ends are as they would be each in a history of its own, whose depot holds the same for the ids
of that end; under ids of no end, the shared depot holds what it held at first.
-/
structure Solitary (ids : κ → List String) (origin : MemoryDepot)
    (alone : κ → History MemoryDepot Parcel) (ends : Ends κ MemoryDepot Parcel) : Prop where
  fits : ∀ who, (alone who).Matches (ids who) (ends.history who)
  others : ∀ id, (∀ who, id ∉ ids who) → ends.depot.targets.get? id = origin.targets.get? id

variable [DecidableEq κ]

section Run

variable {ids : κ → List String} (apart : ∀ who other, who ≠ other → ∀ id ∈ ids who, id ∉ ids other)
  {origin : MemoryDepot} {alone : κ → History MemoryDepot Parcel}
  {ends : Ends κ MemoryDepot Parcel}
include apart

/-- What one end does, it does in its own history, and in no other. -/
theorem Solitary.perform (role : κ → Role) (solitary : Solitary ids origin alone ends)
    {who : κ} {operation : Operation Parcel}
    (names : operation.Names (ids who) (alone who).round.context.settings.encoding) :
    Solitary ids origin (Function.update alone who ((alone who).perform (role who) operation))
      (ends.perform role (who, operation)) := by
  -- The end's own ids are the only ones that its turn concerns.
  have fits := solitary.fits who
  have changed : MemoryDepot.ChangedOnly (ids who) ends.depot
      ((ends.round who).perform (role who) ends.depot operation).2.2 := by
    have same : ends.round who = (alone who).round := fits.round
    rw [same]
    exact changed_perform _ _ _ fits.addresses names
  refine ⟨fun other => ?_, fun id nobody => ?_⟩
  · by_cases own : other = who
    · subst own
      rw [Function.update_self, history_perform_self]
      exact fits.perform (role other) names
    · -- Another end has other ids, for which the depot has not changed.
      rw [Function.update_of_ne own, history_perform_other _ _ _ _ own]
      obtain ⟨round, answers, agree, addresses⟩ := solitary.fits other
      exact ⟨round, answers, agree.changed changed (apart other who own), addresses⟩
  · exact (changed.held id (nobody who)).trans (solitary.others id nobody)

/-- Whatever turns the ends take, each does its part of them in its own history. -/
theorem Solitary.performAll (role : κ → Role) {turns : List (κ × Operation Parcel)}
    (solitary : Solitary ids origin alone ends)
    (names : ∀ who, ∀ operation ∈ turnsOf who turns,
      operation.Names (ids who) (alone who).round.context.settings.encoding) :
    Solitary ids origin (fun who => (alone who).performAll (role who) (turnsOf who turns))
      (ends.performAll role turns) := by
  -- The turns are taken one after the other, whatever has been done before them.
  induction turns generalizing alone ends with
  | nil => exact solitary
  | cons turn turns ih =>
    obtain ⟨who, operation⟩ := turn
    have parts : ∀ other, turnsOf other ((who, operation) :: turns) =
        if who = other then operation :: turnsOf other turns else turnsOf other turns :=
      fun other => turnsOf_cons other (who, operation) turns
    have here := solitary.perform apart role (names who operation (by simp [parts]))
    have later := ih here fun other which member => by
      -- Settings are never changed, so headers are read as before.
      by_cases own : other = who
      · subst own
        rw [Function.update_self]
        show which.Names _ ((alone other).round.perform _ _ _).2.1.context.settings.encoding
        rw [(settings_perform ..).1]
        exact names other which (by simp [parts, member])
      · rw [Function.update_of_ne own]
        exact names other which (by simp [parts, Ne.symm own, member])
    have whole : (fun other => History.performAll (role other) (Function.update alone who
        ((alone who).perform (role who) operation) other) (turnsOf other turns)) =
          fun other => (alone other).performAll (role other)
            (turnsOf other ((who, operation) :: turns)) := by
      funext other
      rw [parts]
      by_cases own : other = who
      · subst own
        rw [Function.update_self, if_pos rfl]
        rfl
      · rw [Function.update_of_ne own, if_neg (Ne.symm own)]
    rw [whole] at later
    exact later

end Run

/--
The ends of a depot may take their turns in any other order.

If no two of them address the same id, then all that matters is what each end does, and in which
order: every round, every answer, and what the depot holds under every id come out the same.
-/
theorem performAll_reordered (role : κ → Role) (start : Ends κ MemoryDepot Parcel)
    {turns others : List (κ × Operation Parcel)}
    (same : ∀ who, turnsOf who others = turnsOf who turns)
    (apart : ∀ who other, who ≠ other → ∀ id ∈ (start.round who).addressees (turnsOf who turns),
      id ∉ (start.round other).addressees (turnsOf other turns)) :
    let first := start.performAll role turns
    let second := start.performAll role others
    first.round = second.round ∧ first.answers = second.answers ∧
      ∀ id, first.depot.targets.get? id = second.depot.targets.get? id := by
  -- At first every end has a history of its own in which nothing has been done.
  intro first second
  have initially : Solitary (fun who => (start.round who).addressees (turnsOf who turns)) start.depot
      start.history start :=
    ⟨fun who => ⟨rfl, rfl, .refl _ _, addresses_addressees _ _⟩, fun _ _ => rfl⟩
  have one := initially.performAll apart role fun who operation member =>
    names_addressees _ member
  have two : Solitary _ _ _ (start.performAll role others) :=
    initially.performAll apart role fun who operation member =>
      names_addressees _ (by rw [← same]; exact member)
  simp only [same] at two
  refine ⟨funext fun who => (one.fits who).round.trans (two.fits who).round.symm,
    funext fun who => (one.fits who).answers.trans (two.fits who).answers.symm, fun id => ?_⟩
  by_cases addressed : ∃ who, id ∈ (start.round who).addressees (turnsOf who turns)
  · obtain ⟨who, member⟩ := addressed
    have held := (one.fits who).agree.held id member
    exact held.trans ((two.fits who).agree.held id member).symm
  · have nobody := not_exists.mp addressed
    exact (one.others id nobody).trans (two.others id nobody).symm

/--
Two ends that serve different peers from one depot are isolated from each other.

However the two take turns, both rounds, all answers and all bytes to go out, and what the depot holds
under every id are as if the first end had done everything before the second one began.
-/
theorem performAll_isolated (role : Fin 2 → Role) (start : Ends (Fin 2) MemoryDepot Parcel)
    {first second : List (Operation Parcel)}
    (apart : ∀ id ∈ (start.round 0).addressees first, id ∉ (start.round 1).addressees second)
    {turns : List (Fin 2 × Operation Parcel)} (mine : turnsOf 0 turns = first)
    (theirs : turnsOf 1 turns = second) :
    let mixed := start.performAll role turns
    let ordered := start.performAll role (first.map (0, ·) ++ second.map (1, ·))
    mixed.round = ordered.round ∧ mixed.answers = ordered.answers ∧
      ∀ id, mixed.depot.targets.get? id = ordered.depot.targets.get? id := by
  -- Both orders give each of the two ends the same operations.
  subst mine theirs
  apply performAll_reordered role start
  · intro who
    rw [turnsOf_append, turnsOf_map, turnsOf_map]
    match who with
    | 0 => exact List.append_nil _
    | 1 => rfl
  · intro who other differs id member
    match who, other with
    | 0, 0 => exact absurd rfl differs
    | 0, 1 => exact apart id member
    | 1, 0 => exact fun shared => apart id shared member
    | 1, 1 => exact absurd rfl differs

/--
Two servers of one depot, the second of which gets a header that cannot be read and with it loses its
message, take turns.
-/
theorem performAll_isolated_alternating :
    let receive (phase : Phase) (frame : Bytes) : Operation Parcel :=
      .dispatch .receive phase (some ⟨frame, .final⟩)
    let request (id : String) : Operation Parcel :=
      receive .header (Encoding.binary.encode Header.schema
        { identity := { id }, items := [⟨"k", 1, 1⟩], itemsCount := 1, chunksCount := 1 })
    let first := [request "a", receive .message [1], .dispatch .send .header none, .flush]
    let second := [request "b", receive .header [0xFF], .dispatch .send .header none, .flush]
    let turns : List (Fin 2 × Operation Parcel) :=
      [(1, request "b"), (0, request "a"), (1, receive .header [0xFF]), (0, receive .message [1]),
        (0, .dispatch .send .header none), (1, .dispatch .send .header none), (1, .flush),
        (0, .flush)]
    let start : Ends (Fin 2) MemoryDepot Parcel :=
      { round := fun _ => .ofContext (.initial { id := "s" } {})
        depot := .restricted ["a", "b"] }
    let mixed := start.performAll (fun _ => .server) turns
    let ordered := start.performAll (fun _ => .server) (first.map (0, ·) ++ second.map (1, ·))
    (∀ id ∈ (start.round 0).addressees first, id ∉ (start.round 1).addressees second) ∧
      turnsOf 0 turns = first ∧ turnsOf 1 turns = second ∧ mixed.round = ordered.round ∧
      mixed.answers = ordered.answers ∧
      (∀ id, mixed.depot.targets.get? id = ordered.depot.targets.get? id) ∧
      mixed.depot.get? "a" "k" = some ⟨"k", [1]⟩ ∧ (mixed.round 1).context.errors = 1 := by
  -- The first end addresses one id, and the second end another.
  intro receive request first second turns start mixed ordered
  have apart : ∀ id ∈ (start.round 0).addressees first, id ∉ (start.round 1).addressees second := by
    decide +kernel
  have mine : turnsOf 0 turns = first := by decide +kernel
  have theirs : turnsOf 1 turns = second := by decide +kernel
  obtain ⟨rounds, answers, held⟩ := performAll_isolated (fun _ => .server) start apart mine theirs
  exact ⟨apart, mine, theirs, rounds, answers, held, by decide +kernel, by decide +kernel⟩

end Ends

end Round

end SentinelRounds
