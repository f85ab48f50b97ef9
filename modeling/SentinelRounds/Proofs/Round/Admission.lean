import Mathlib.Data.List.Induction
import SentinelRounds.Proofs.Depot.Memory
import SentinelRounds.Proofs.Round.Halting
import SentinelRounds.Proofs.Round.Sharing
import SentinelRounds.Proofs.Round.Speaker

/-! A depot that only some peers may register with holds nothing for others, and their rounds close. -/

namespace SentinelRounds

namespace MemoryDepot

/-- A depot that only the given ids may register with, and that has a place for no others. -/
structure Guarded (ids : List String) (depot : MemoryDepot) : Prop where
  admitted : depot.admitted = some ids
  held : ∀ id, depot.targets.contains id = true → id ∈ ids

/-- A restricted depot is guarded, since at first it has no places at all. -/
theorem guarded_restricted (ids : List String) : (restricted ids).Guarded ids :=
  ⟨rfl, fun _ contained => by cases contained⟩

namespace Guarded

variable {ids : List String} {depot : MemoryDepot} (guarded : depot.Guarded ids)
include guarded

/-- Only the given ids may register. -/
theorem admits_iff (id : String) : depot.admits id = true ↔ id ∈ ids := by
  -- The list of the depot has the given ids.
  rw [admits, guarded.admitted]
  exact List.contains_iff_mem

/-- A place for one of the given ids is no place for others. -/
theorem insert {id : String} (listed : id ∈ ids) (parcels : Keyed String Parcel) :
    Guarded ids { depot with targets := depot.targets.insert id parcels } := by
  -- A place is the new one, or it was there before.
  refine ⟨guarded.admitted, fun other contained => ?_⟩
  rw [Keyed.contains, Keyed.get?_insert] at contained
  split at contained
  · rename_i same
    rw [same]
    exact listed
  · exact guarded.held other contained

/-- A peer that registers is one of the given ids. -/
theorem register (identity : Identity) : (depot.register identity).2.Guarded ids := by
  -- A place is made only for a peer that is admitted.
  unfold MemoryDepot.register
  split
  · rename_i admitted
    exact guarded.insert ((guarded.admits_iff _).mp admitted) _
  · exact guarded

/-- So is a peer that a parcel can be merged for. -/
theorem merge (identity : Identity) (parcel : Parcel) :
    (depot.merge identity parcel).2.Guarded ids := by
  -- A parcel is put only where there is a place already.
  unfold MemoryDepot.merge
  split
  · exact guarded
  · rename_i held
    refine guarded.insert (guarded.held identity.id ?_) _
    rw [Keyed.contains, held]
    rfl

/-- For any other id a guarded depot holds nothing. -/
theorem nothing {id : String} (unlisted : id ∉ ids) : depot.targets.get? id = none := by
  -- A place for the id would put it among the given ones.
  have absent : ¬ depot.targets.contains id = true := fun contained =>
    unlisted (guarded.held id contained)
  rw [Keyed.contains, Option.isSome_iff_ne_none, not_not] at absent
  exact absent

end Guarded

end MemoryDepot

namespace Round

variable {κ : Type}

/-- A round that has been denied and is halted. -/
structure Barred (round : Round Parcel) : Prop where
  denied : round.context.denied = true
  halted : round.Halted

/-- A denial bars a round. -/
theorem barred_deny (round : Round Parcel) (role : Role) (reason : String) :
    (round.deny role reason).Barred :=
  ⟨denied_deny role round reason, (Stopped.deny round reason).halted⟩

/-- A guarded depot bars every round in which a peer from outside announces itself. -/
theorem barred_receiveHeader {ids : List String} {depot : MemoryDepot} (guarded : depot.Guarded ids)
    (round : Round Parcel) (role : Role) {frame : Bytes} {header : Header}
    (read : readHeader round.context.settings.encoding frame = .ok header)
    (unlisted : header.identity.id ∉ ids) : (round.receiveHeader depot role frame).1.Barred := by
  -- The peer has no place, and may not register.
  have unknown : ¬ Depot.contains depot header.identity = true := fun contained =>
    unlisted (guarded.held _ contained)
  have unadmitted : ¬ depot.admits header.identity.id = true :=
    mt (guarded.admits_iff _).mp unlisted
  have rejected : Depot.register depot header.identity =
      (.rejected s!"Registration denied for {header.identity.name} ({header.identity.id})", depot) :=
    if_neg unadmitted
  simp only [receiveHeader, read, welcome, if_neg unknown, rejected]
  -- A client may have refused the header before the depot is asked.
  cases header.refusal role <;> exact barred_deny _ role _

/-- A chunk neither lifts nor records a denial. -/
theorem denied_receiveMessage (round : Round Parcel) (depot : MemoryDepot) (role : Role)
    (frame : Bytes) (kind : Markup) :
    (round.receiveMessage depot role frame kind).1.context.denied = round.context.denied := by
  -- A chunk can be refused for several reasons, and none of them is a denial.
  simp only [receiveMessage, absorbChunk_eq_hold]
  split
  · cases role <;> rfl
  split
  · cases role <;> rfl
  split
  · cases role <;> rfl
  split
  · cases role <;> rfl
  · -- The item has grown, and is merged if it is complete.
    split
    · split
      · cases role <;> rfl
      · simp only [onContext, finishItem_eq]
        cases role <;> rfl
    · cases role <;> rfl

/-- Whether an operation is no attempt of the code around a round to open it again. -/
def Operation.Respects : Operation Parcel → Prop
  | .act action => action ≠ .close false ∧ action ≠ .denied false
  | _ => True

/-- A round stays barred until it is opened on purpose, or until a header can be answered. -/
theorem Barred.perform {round : Round Parcel} (barred : round.Barred) (role : Role)
    (depot : MemoryDepot) {operation : Operation Parcel} (respects : operation.Respects)
    (nobody : operation.header? round.context.settings.encoding = none) :
    (round.perform role depot operation).2.1.Barred := by
  -- Only an action opens a round, and this one does not.
  have unopened : operation ≠ .act (.close false) := by
    rintro rfl
    exact respects.1 rfl
  refine ⟨?_, barred.halted.perform depot unopened⟩
  -- Sending leaves the denial alone.
  have sent : ∀ {act : Round Parcel → Except RoundFault Markup × Round Parcel}, Outgoing role act →
      (act round).2.context.denied = true := by
    intro act outgoing
    exact (congrArg Context.denied (outgoing.context_eq round)).trans barred.denied
  cases operation with
  | read phase bytes =>
    simp only [Round.perform, Context.read]
    split <;> exact barred.denied
  | act action =>
    cases action with
    | denied value =>
      cases value with
      | false => exact absurd rfl respects.2
      | true => rfl
    | synchronicIfItems =>
      simp only [Round.perform, Action.apply]
      split <;> exact barred.denied
    | _ => cases role <;> exact barred.denied
  | reset => cases role <;> exact barred.denied
  | dispatch transit phase inbound =>
    cases transit with
    | send =>
      cases phase with
      | header => cases inbound <;> exact sent (outgoing_sendHeader role)
      | message => cases inbound <;> exact sent (outgoing_sendMessage role)
    | receive =>
      cases inbound with
      | none => cases phase <;> exact barred.denied
      | some inbound =>
        cases phase with
        | header =>
          -- A header that cannot be read is answered with a fault.
          cases read : readHeader round.context.settings.encoding inbound.frame with
          | ok header =>
            rw [Operation.header?_eq_some_iff.mpr ⟨inbound, rfl, read⟩] at nobody
            cases nobody
          | error fault =>
            simp only [Round.perform, dispatch, receiveHeader, read]
            cases role <;> exact barred.denied
        | message =>
          exact (round.denied_receiveMessage depot role _ _).trans barred.denied
  | _ => exact barred.denied

namespace Ends

variable [DecidableEq κ]

/-- After some turns the depot is guarded, and ends that heard last from outsiders are barred. -/
structure Policed (ids : List String) (rounds : κ → Round Parcel)
    (turns : List (κ × Operation Parcel)) (ends : Ends κ MemoryDepot Parcel) : Prop where
  guarded : ends.depot.Guarded ids
  settings : ∀ who, (ends.round who).context.settings = (rounds who).context.settings
  barred : ∀ who header,
    (Operation.headers (rounds who).context.settings.encoding (turnsOf who turns)).getLast? =
      some header → header.identity.id ∉ ids → (ends.round who).Barred

/-- One more turn keeps the depot guarded, and bars an end that hears from an outsider. -/
theorem Policed.perform {ids : List String} {rounds : κ → Round Parcel}
    {turns : List (κ × Operation Parcel)} {ends : Ends κ MemoryDepot Parcel}
    (policed : Policed ids rounds turns ends) (role : κ → Role) {who : κ}
    {operation : Operation Parcel} (respects : operation.Respects) :
    Policed ids rounds (turns ++ [(who, operation)]) (ends.perform role (who, operation)) := by
  -- Whatever the turn does to the depot keeps it guarded.
  have guarded : ((ends.round who).perform (role who) ends.depot operation).2.2.Guarded ids :=
    (ends.round who).perform_depot policed.guarded (role who) operation
      (fun header _ => policed.guarded.register header.identity)
      (fun peer item _ _ => policed.guarded.merge peer item)
  -- The end whose turn it was comes from its own round; the others keep theirs.
  have own : (ends.perform role (who, operation)).round who =
      ((ends.round who).perform (role who) ends.depot operation).2.1 :=
    congrArg History.round (ends.history_perform_self role who operation)
  have other : ∀ another, another ≠ who →
      (ends.perform role (who, operation)).round another = ends.round another := fun _ differs =>
    congrArg History.round (ends.history_perform_other role who operation differs)
  refine ⟨guarded, fun another => ?_, fun another header last unlisted => ?_⟩
  · by_cases same : another = who
    · subst same
      rw [own, (settings_perform ..).1]
      exact policed.settings another
    · rw [other another same]
      exact policed.settings another
  · have parts : turnsOf another (turns ++ [(who, operation)]) =
        turnsOf another turns ++ if who = another then [operation] else [] := by
      rw [turnsOf_append, turnsOf_cons]
      rfl
    by_cases same : another = who
    · subst same
      have settings := policed.settings another
      rw [own]
      rw [parts, if_pos rfl, ← settings] at last
      cases brought : operation.header? (ends.round another).context.settings.encoding with
      | none =>
        -- Nobody new has announced itself.
        have before : (Operation.headers (rounds another).context.settings.encoding
            (turnsOf another turns)).getLast? = some header := by
          rw [← settings, ← last]
          simp [Operation.headers, brought]
        exact (policed.barred another header before unlisted).perform _ _ respects brought
      | some heard =>
        have latest : heard = header := by
          simpa [Operation.headers, brought] using last
        obtain ⟨inbound, rfl, read⟩ := Operation.header?_eq_some_iff.mp brought
        subst latest
        exact barred_receiveHeader policed.guarded _ _ read unlisted
    · rw [other another same]
      rw [parts, if_neg (Ne.symm same), List.append_nil] at last
      exact policed.barred another header last unlisted

/--
A restricted depot admits only the peers on its list.

Whatever any number of ends do over it, it never holds anything for another id, and every end that
was last approached by a peer from outside the list has denied it, closes, and has no message phase.
-/
theorem restricted_admits (role : κ → Role) (ids : List String) (rounds : κ → Round Parcel)
    {turns : List (κ × Operation Parcel)} (respects : ∀ turn ∈ turns, turn.2.Respects) :
    let start : Ends κ MemoryDepot Parcel :=
      { round := rounds, depot := .restricted ids, answers := fun _ => [] }
    let after := performAll role start turns
    (∀ id ∉ ids, after.depot.targets.contains id = false ∧ after.depot.parcels id = [] ∧
      ∀ key, after.depot.get? id key = none) ∧
    ∀ who header,
      (Operation.headers (rounds who).context.settings.encoding (turnsOf who turns)).getLast? =
        some header → header.identity.id ∉ ids →
      (after.round who).context.denied = true ∧ (after.round who).context.close = true ∧
        (after.round who).context.receiving.active = false ∧
        (after.round who).context.sending.active = false := by
  -- Both halves are read off what holds after the last turn.
  intro start after
  have policed : Policed ids rounds turns after := by
    simp only [after]
    clear after
    -- The turns are followed from the first one, so that the last header is known all along.
    induction turns using List.reverseRecOn with
    | nil => exact ⟨MemoryDepot.guarded_restricted ids, fun _ => rfl, fun _ _ last => by cases last⟩
    | append_singleton turns turn ih =>
      obtain ⟨before, here⟩ := List.forall_mem_append.mp respects
      rw [performAll, List.foldl_append]
      exact (ih before).perform role (here turn List.mem_cons_self)
  refine ⟨fun id unlisted => ?_, fun who header last unlisted => ?_⟩
  · have nothing := policed.guarded.nothing unlisted
    refine ⟨?_, ?_, fun key => ?_⟩
    · rw [Keyed.contains, nothing]
      rfl
    · rw [MemoryDepot.parcels, nothing]
    · rw [MemoryDepot.get?, nothing]
      rfl
  · obtain ⟨denied, close, receiving, sending⟩ := policed.barred who header last unlisted
    exact ⟨denied, close, receiving, sending⟩

/--
A peer from outside takes over from one on the list while items are still awaited, and sends a chunk,
a header that cannot be read, and another chunk after a reset; another end is not concerned.
-/
theorem restricted_admits_taken_over :
    let receive (phase : Phase) (frame : Bytes) : Operation Parcel :=
      .dispatch .receive phase (some ⟨frame, .final⟩)
    let header (id : String) : Header :=
      { identity := { id }, items := [⟨"k", 1, 1⟩, ⟨"l", 1, 1⟩], itemsCount := 2, chunksCount := 2 }
    let request (id : String) : Operation Parcel :=
      receive .header (Encoding.binary.encode Header.schema (header id))
    let turns : List (Fin 2 × Operation Parcel) :=
      [(0, request "a"), (0, receive .message [1]), (1, request "a"), (0, request "z"),
        (0, receive .message [2]), (0, .dispatch .send .header none), (0, receive .header [0xFF]),
        (0, .reset), (0, receive .message [3])]
    let start : Ends (Fin 2) MemoryDepot Parcel :=
      { round := fun _ => .ofContext (.initial { id := "s" } {})
        depot := .restricted ["a"]
        answers := fun _ => [] }
    let after := start.performAll (fun _ => .server) turns
    (∀ turn ∈ turns, turn.2.Respects) ∧ "z" ∉ ["a"] ∧
      (Operation.headers (start.round 0).context.settings.encoding (turnsOf 0 turns)).getLast? =
        some (header "z") ∧
      after.depot.parcels "z" = [] ∧ (after.round 0).context.denied = true ∧
      (after.round 0).context.close = true ∧ (after.round 1).context.denied = false ∧
      after.depot.get? "a" "k" = some ⟨"k", [1]⟩ := by
  -- The last header that can be read comes from outside.
  intro receive header request turns start after
  have respects : ∀ turn ∈ turns, turn.2.Respects := by
    simp [turns, request, receive, Operation.Respects]
  have outside : "z" ∉ ["a"] := by decide
  have last : (Operation.headers (start.round 0).context.settings.encoding
      (turnsOf 0 turns)).getLast? = some (header "z") := by decide +kernel
  obtain ⟨nothing, barred⟩ := restricted_admits (fun _ => .server) ["a"] start.round respects
  obtain ⟨denied, close, _, _⟩ := barred 0 (header "z") last outside
  exact ⟨respects, outside, last, (nothing "z" outside).2.1, denied, close, by decide +kernel,
    by decide +kernel⟩

end Ends

end Round

end SentinelRounds
