import SentinelRounds.Proofs.Net.Ledger

/-! Links are numbered as they are accepted, and one whose service has finished leaves no trace. -/

namespace SentinelRounds

/-- The socket that has been accepted. -/
def Mark.accepted? : Mark → Option Nat
  | .accepted socket => some socket
  | _ => none

/-- The number that has been given, and the socket that it has been given to. -/
def Mark.assigned? : Mark → Option (Nat × Nat)
  | .assigned id socket => some (id, socket)
  | _ => none

/-- The numbers that have been given, each with the socket that it has been given to. -/
def Mark.assignments (marks : List Mark) : List (Nat × Nat) := marks.filterMap assigned?

/-- A number has been given to a socket where it can be told. -/
theorem Mark.mem_assignments {marks : List Mark} {id socket : Nat} :
    (id, socket) ∈ assignments marks ↔ .assigned id socket ∈ marks := by
  -- Marks of other kinds are left out.
  rw [assignments, List.mem_filterMap]
  constructor
  · rintro ⟨mark, member, same⟩
    cases mark <;> cases same
    exact member
  · exact fun member => ⟨_, member, rfl⟩

/-- The socket that the acceptor has accepted and not given a number yet. -/
def Acceptor.inHand : Acceptor → List Nat
  | .opened socket => [socket]
  | _ => []

/-- A link that has a number is on its way to one of the tables. -/
theorem Acceptor.number?_eq_some_iff {acceptor : Acceptor} {id : Nat} :
    acceptor.number? = some id ↔
      acceptor = .enroll id ∨ acceptor = .start id ∨ acceptor = .list id := by
  cases acceptor <;> simp [number?]

/-- Whoever brings nothing in brings no link in. -/
theorem Acceptor.number?_of_isFree {acceptor : Acceptor} (free : acceptor.isFree = true) :
    acceptor.number? = none := by
  cases acceptor <;> first | rfl | cases free

namespace Ledger

/-- The numbers that have been given so far, and the links that they have been given to. -/
structure Numbered (marks : List Mark) (ledger : Ledger) : Prop where
  order : marks.filterMap Mark.accepted? =
    (Mark.assignments marks).map Prod.snd ++ ledger.acceptor.inHand
  rising : ((Mark.assignments marks).map Prod.fst).Pairwise (· < ·)
  below : ∀ entry ∈ Mark.assignments marks, entry.1 < ledger.nextId
  labelled : ∀ entry ∈ Mark.assignments marks, ledger.labels entry.1 = some entry

/-- Nobody in a server has anything to do with a number: it is not coming in, and nobody serves it. -/
def Absent (ledger : Ledger) (id : Nat) : Prop :=
  ledger.services id = none ∧ ledger.acceptor.number? ≠ some id

/-- Who is coming in, in the table and in the registry, and who is not there yet or not any more. -/
structure Tidy (marks : List Mark) (ledger : Ledger) : Prop where
  coming : ∀ id, ledger.acceptor = .enroll id ∨ ledger.acceptor = .start id →
    ledger.services id = none
  entering : ∀ id, ledger.acceptor = .list id → ledger.services id ≠ none
  listed : ∀ id ∈ ledger.table, ledger.services id ≠ none
  kept : ∀ id, ledger.services id ≠ none → id ∈ ledger.table ∨ ledger.acceptor = .list id
  registered : ∀ id ∈ ledger.registry, ledger.acceptor = .start id ∨
    ∃ service, ledger.services id = some service ∧ service.isLeaving = false
  future : ∀ id, (∀ socket, .assigned id socket ∉ marks) → ledger.Absent id
  finished : ∀ id, .finished id ∈ marks → id < ledger.nextId ∧ ledger.Absent id

variable {before after : Ledger} {marks more : List Mark}

/-- The numbers from the next one on have not been given yet. -/
theorem Numbered.unassigned {ledger : Ledger} {id socket : Nat} (numbered : ledger.Numbered marks)
    (later : ledger.nextId ≤ id) : .assigned id socket ∉ marks := fun member =>
  Nat.not_lt.mpr later (numbered.below _ (Mark.mem_assignments.mpr member))

/-- A step that gives no number leaves the numbers as they are, whatever sockets it takes. -/
theorem Numbered.kept (numbered : before.Numbered marks)
    (unassigned : more.filterMap Mark.assigned? = [])
    (order : (marks ++ more).filterMap Mark.accepted? =
      (Mark.assignments marks).map Prod.snd ++ after.acceptor.inHand)
    (next : after.nextId = before.nextId) (labels : after.labels = before.labels) :
    after.Numbered (marks ++ more) := by
  -- Nothing is added to the numbers that have been given.
  have assignments : Mark.assignments (marks ++ more) = Mark.assignments marks := by
    rw [Mark.assignments, List.filterMap_append, unassigned, List.append_nil]
    rfl
  refine ⟨?_, ?_, ?_, ?_⟩
  · rw [assignments]
    exact order
  · rw [assignments]
    exact numbered.rising
  · rw [assignments, next]
    exact numbered.below
  · rw [assignments, labels]
    exact numbered.labelled

/-- In particular one that takes no socket. -/
theorem Numbered.same (numbered : before.Numbered marks)
    (unassigned : more.filterMap Mark.assigned? = []) (unaccepted : more.filterMap Mark.accepted? = [])
    (hand : after.acceptor.inHand = before.acceptor.inHand) (next : after.nextId = before.nextId)
    (labels : after.labels = before.labels) : after.Numbered (marks ++ more) := by
  -- Neither is anything added to the sockets that have been taken.
  refine numbered.kept unassigned ?_ next labels
  rw [List.filterMap_append, unaccepted, List.append_nil, hand]
  exact numbered.order

/-- Numbers are given in rising order, and a link keeps the number that it has got. -/
theorem Moves.numbered (moves : before.Moves more after) (numbered : before.Numbered marks) :
    after.Numbered (marks ++ more) := by
  -- Only one of the steps gives a number, and only one takes a socket.
  cases moves with
  | rest | serve | unregister | remove | retire => exact numbered.same rfl rfl rfl rfl rfl
  | turn free still =>
    have empty {acceptor : Acceptor} (free : acceptor.isFree = true) : acceptor.inHand = [] := by
      cases acceptor <;> first | rfl | cases free
    exact numbered.same rfl rfl ((empty still).trans (empty free).symm) rfl rfl
  | enroll stage | start stage | list stage =>
    exact numbered.same rfl rfl (congrArg Acceptor.inHand stage).symm rfl rfl
  | accept socket idle =>
    have order := numbered.order
    rw [idle] at order
    refine numbered.kept rfl ?_ rfl rfl
    rw [List.filterMap_append, order]
    simp [Mark.accepted?, Acceptor.inHand]
  | wrap opened =>
    -- The next number is above all that have been given before.
    rename_i socket
    have assignments : Mark.assignments (marks ++ [.assigned before.nextId socket]) =
        Mark.assignments marks ++ [(before.nextId, socket)] := by
      simp [Mark.assignments, Mark.assigned?]
    have order := numbered.order
    rw [opened] at order
    refine ⟨?_, ?_, ?_, ?_⟩
    · rw [assignments, List.filterMap_append, order, List.map_append]
      simp [Mark.accepted?, Acceptor.inHand]
    · rw [assignments, List.map_append, List.pairwise_append]
      refine ⟨numbered.rising, List.pairwise_singleton _ _, fun id member last same => ?_⟩
      obtain ⟨entry, given, rfl⟩ := List.mem_map.mp member
      rw [List.mem_singleton.mp same]
      exact numbered.below entry given
    · intro entry member
      rw [assignments] at member
      rcases List.mem_append.mp member with old | new
      · exact Nat.lt_succ_of_lt (numbered.below entry old)
      · rw [List.mem_singleton.mp new]
        exact Nat.lt_succ_self _
    · intro entry member
      rw [assignments] at member
      rcases List.mem_append.mp member with old | new
      · simp only [if_neg (Nat.ne_of_lt (numbered.below entry old))]
        exact numbered.labelled entry old
      · rw [List.mem_singleton.mp new]
        exact if_pos rfl

/-- Whoever is absent is neither in the table nor in the registry. -/
theorem Tidy.nowhere {ledger : Ledger} {id : Nat} (tidy : ledger.Tidy marks)
    (absent : ledger.Absent id) : id ∉ ledger.table ∧ id ∉ ledger.registry := by
  -- Whoever is in one of the tables is served, or is coming in.
  obtain ⟨unserved, unbrought⟩ := absent
  refine ⟨fun member => tidy.listed id member unserved, fun member => ?_⟩
  rcases tidy.registered id member with stage | ⟨service, serves, _⟩
  · exact unbrought (congrArg Acceptor.number? stage)
  · cases unserved.symm.trans serves

/-- Whoever is served is not coming in any more. -/
theorem Tidy.ne_of_serves {ledger : Ledger} {id other : Nat} {service : Service}
    (tidy : ledger.Tidy marks) (serves : ledger.services id = some service)
    (stage : ledger.acceptor = .enroll other ∨ ledger.acceptor = .start other) : other ≠ id := by
  -- Whoever is coming in is not served yet.
  rintro rfl
  cases (tidy.coming other stage).symm.trans serves

/-- Numbers are not taken back. -/
theorem Moves.nextId_le (moves : before.Moves more after) : before.nextId ≤ after.nextId := by
  -- Only one of the steps gives a number, and then the next one is higher.
  cases moves with
  | wrap => exact Nat.le_succ _
  | _ => exact Nat.le_refl _

/-- Only the next number is ever given. -/
theorem Moves.assigned_eq (moves : before.Moves more after) {id socket : Nat}
    (member : .assigned id socket ∈ more) : id = before.nextId := by
  -- Only one of the steps gives a number.
  cases moves with
  | wrap => exact (Mark.assigned.inj (List.mem_singleton.mp member)).1
  | accept | retire => cases List.mem_singleton.mp member
  | _ => cases member

/-- Whoever is absent does not come back, except as the link that has got the number just now. -/
theorem Moves.absent {id : Nat} (moves : before.Moves more after) (absent : before.Absent id)
    (other : ∀ socket, .assigned id socket ∉ more) : after.Absent id := by
  -- Whoever is absent is neither served nor brought in.
  obtain ⟨unserved, unbrought⟩ := absent
  -- Only somebody else comes in, and only others are served.
  have apart {number : Nat} (stage : before.acceptor.number? = some number) : id ≠ number :=
    fun same => unbrought (same ▸ stage)
  have distinct {number : Nat} {service : Service} (serves : before.services number = some service) :
      id ≠ number := fun same => by
    rw [← same, unserved] at serves
    cases serves
  cases moves with
  | rest | remove => exact ⟨unserved, unbrought⟩
  | turn _ still =>
    refine ⟨unserved, ?_⟩
    rw [Acceptor.number?_of_isFree still]
    exact nofun
  | accept => exact ⟨unserved, nofun⟩
  | wrap =>
    refine ⟨unserved, fun same => ?_⟩
    obtain rfl := Option.some.inj same
    exact other _ List.mem_cons_self
  | enroll stage =>
    have apart := apart (congrArg Acceptor.number? stage)
    exact ⟨unserved, fun same => apart (Option.some.inj same).symm⟩
  | start stage =>
    have apart := apart (congrArg Acceptor.number? stage)
    exact ⟨(if_neg apart).trans unserved, fun same => apart (Option.some.inj same).symm⟩
  | list => exact ⟨unserved, nofun⟩
  | serve serves | unregister serves | retire serves =>
    exact ⟨(if_neg (distinct serves)).trans unserved, unbrought⟩

section

variable (moves : before.Moves more after) (numbered : before.Numbered marks)
  (tidy : before.Tidy marks)
include moves tidy

include numbered in
/-- Whoever comes in is not served before it is in the registry. -/
theorem Moves.coming (id : Nat) (stage : after.acceptor = .enroll id ∨ after.acceptor = .start id) :
    after.services id = none := by
  -- The cases are the steps by which the ledger changes.
  cases moves with
  | rest | remove => exact tidy.coming id stage
  | turn _ still => rcases stage with rfl | rfl <;> cases still
  | accept | start | list => rcases stage with stage | stage <;> cases stage
  | wrap =>
    rcases stage with stage | stage <;> cases stage
    exact (tidy.future _ fun socket => numbered.unassigned (Nat.le_refl _)).1
  | enroll enrolls =>
    rcases stage with stage | stage <;> cases stage
    exact tidy.coming id (.inl enrolls)
  | serve serves | unregister serves | retire serves =>
    exact (if_neg (tidy.ne_of_serves serves stage)).trans (tidy.coming id stage)

/-- Whoever is being entered into the table is served, and stays so until it is in it. -/
theorem Moves.entering (id : Nat) (stage : after.acceptor = .list id) : after.services id ≠ none := by
  -- The cases are the steps by which the ledger changes.
  cases moves with
  | rest | remove => exact tidy.entering id stage
  | turn _ still =>
    -- The acceptor has come to this stage with the step.
    simp only at stage
    subst stage
    cases still
  | accept | wrap | enroll | list => cases stage
  | start =>
    -- The service has been started by the step itself.
    cases stage
    simp [put]
  | serve | unregister =>
    simp only [put]
    -- A service that goes on is still there.
    split
    · exact Option.some_ne_none _
    · exact tidy.entering id stage
  -- A number that is retired is held by nobody.
  | retire _ unheld => exact absurd stage (unheld id)

/-- Whoever is in the table is served. -/
theorem Moves.listed (id : Nat) (member : id ∈ after.table) : after.services id ≠ none := by
  -- The cases are the steps by which the ledger changes.
  cases moves with
  | rest | turn | accept | wrap | enroll | remove => exact tidy.listed id member
  | start | serve | unregister =>
    simp only [put]
    split
    · exact Option.some_ne_none _
    · exact tidy.listed id member
  | list stage =>
    rcases List.mem_append.mp member with old | new
    · exact tidy.listed id old
    · exact tidy.entering id (List.mem_singleton.mp new ▸ stage)
  | retire =>
    -- Whoever finishes has left the table.
    obtain ⟨old, other⟩ := List.mem_filter.mp member
    simp only [put]
    rw [if_neg (of_decide_eq_true other)]
    exact tidy.listed id old

/-- Whoever is in the registry is about to be served, or is served and not leaving. -/
theorem Moves.registered (id : Nat) (member : id ∈ after.registry) :
    after.acceptor = .start id ∨
      ∃ service, after.services id = some service ∧ service.isLeaving = false := by
  -- Unless the acceptor is about to start a service, all in the registry are served.
  have served {stage : Acceptor} (stands : before.acceptor = stage) (other : stage ≠ .start id)
      (member : id ∈ before.registry) :
      ∃ service, before.services id = some service ∧ service.isLeaving = false :=
    (tidy.registered id member).resolve_left (stands ▸ other)
  cases moves with
  | rest => exact tidy.registered id member
  | turn free => exact .inr (served rfl (fun stage => by rw [stage] at free; cases free) member)
  | accept _ stage | wrap stage | list stage => exact .inr (served stage nofun member)
  | enroll stage =>
    rcases List.mem_append.mp member with old | new
    · exact .inr (served stage nofun old)
    · exact .inl (congrArg Acceptor.start (List.mem_singleton.mp new).symm)
  | start stage =>
    right
    simp only [put]
    split
    · exact ⟨.greet, rfl, rfl⟩
    · rename_i other
      exact served stage (fun same => other (Acceptor.start.inj same).symm) member
  | serve serves leaves =>
    rcases tidy.registered id member with stage | ⟨service, stands, stays⟩
    · exact .inl stage
    · right
      simp only [put]
      split
      · -- As long as it is in the registry, its service does not leave.
        rename_i onward same
        subst same
        cases stands.symm.trans serves
        refine ⟨onward, rfl, eq_false_of_ne_true fun leaving => ?_⟩
        rcases leaves leaving with gone | absent
        · cases stays.symm.trans gone
        · exact absent member
      · exact ⟨service, stands, stays⟩
  | unregister =>
    -- Whoever leaves has been taken out first.
    obtain ⟨old, other⟩ := List.mem_filter.mp member
    simp only [put, if_neg (of_decide_eq_true other)]
    exact tidy.registered id old
  | remove => exact tidy.registered id (List.mem_filter.mp member).1
  | retire serves =>
    rcases tidy.registered id member with stage | ⟨service, stands, stays⟩
    · exact .inl stage
    · right
      simp only [put]
      split
      · rename_i same
        subst same
        cases stands.symm.trans serves
        cases stays
      · exact ⟨service, stands, stays⟩

include numbered in
/-- What is told to have finished has had its number, and is absent. -/
theorem Moves.finished (id : Nat) (member : .finished id ∈ more) :
    id < after.nextId ∧ after.Absent id := by
  -- Only one of the steps tells that somebody has finished.
  cases moves with
  | retire serves unheld =>
    obtain rfl := Mark.finished.inj (List.mem_singleton.mp member)
    refine ⟨Nat.lt_of_not_le fun later => ?_, if_pos rfl, fun stage => ?_⟩
    · cases (tidy.future id fun socket => numbered.unassigned later).1.symm.trans serves
    · rcases Acceptor.number?_eq_some_iff.mp stage with enrolls | starts | lists
      · exact tidy.ne_of_serves serves (.inl enrolls) rfl
      · exact tidy.ne_of_serves serves (.inr starts) rfl
      · exact unheld id lists
  | accept | wrap => cases List.mem_singleton.mp member
  | _ => cases member

/-- Whoever is served is in the table, or is being entered into it. -/
theorem Moves.kept (id : Nat) (served : after.services id ≠ none) :
    id ∈ after.table ∨ after.acceptor = .list id := by
  -- Unless the acceptor lists a link, the ones in the table are all that are served.
  have listed {stage : Acceptor} (stands : before.acceptor = stage) (other : stage ≠ .list id)
      (served : before.services id ≠ none) : id ∈ before.table :=
    (tidy.kept id served).resolve_right (stands ▸ other)
  cases moves with
  | rest | remove => exact tidy.kept id served
  | turn free => exact .inl (listed rfl (fun stage => by rw [stage] at free; cases free) served)
  | accept _ stage | wrap stage | enroll stage =>
    exact .inl (listed stage (fun other => by cases other) served)
  | start stage =>
    simp only [put] at served
    split at served
    · rename_i same
      exact .inr (congrArg Acceptor.list same.symm)
    · exact .inl (listed stage (fun other => by cases other) served)
  | list stage =>
    rcases tidy.kept id served with old | new
    · exact .inl (List.mem_append_left _ old)
    · cases stage.symm.trans new
      exact .inl (List.mem_append_right _ (List.mem_singleton_self id))
  | serve serves | unregister serves =>
    refine tidy.kept id ?_
    simp only [put] at served
    split at served
    · rename_i same
      rw [same, serves]
      exact Option.some_ne_none _
    · exact served
  | retire =>
    -- Only whoever finishes leaves the table.
    simp only [put] at served
    split at served
    · exact absurd rfl served
    · rename_i other
      rcases tidy.kept id served with old | new
      · exact .inl (List.mem_filter.mpr ⟨old, decide_eq_true other⟩)
      · exact .inr new

include numbered in
/-- A step leaves nobody behind in the registry or in the table. -/
theorem Moves.stays_tidy : after.Tidy (marks ++ more) where
  coming := moves.coming numbered tidy
  entering := moves.entering tidy
  listed := moves.listed tidy
  kept := moves.kept tidy
  registered := moves.registered tidy
  future id unassigned :=
    moves.absent
      (tidy.future id fun socket member => unassigned socket (List.mem_append_left _ member))
      fun socket member => unassigned socket (List.mem_append_right _ member)
  finished id member := by
    -- Whoever has finished did so before the step, or in it.
    rcases List.mem_append.mp member with old | new
    · -- Its number is not given a second time.
      obtain ⟨below, absent⟩ := tidy.finished id old
      exact ⟨Nat.lt_of_lt_of_le below moves.nextId_le, moves.absent absent fun socket member =>
        Nat.ne_of_lt below (moves.assigned_eq member)⟩
    · exact moves.finished numbered tidy id new

end

end Ledger

namespace Server

variable {δ ι : Type}

/-- A server that has just been started has no links, and everything is in order. -/
theorem ledger_start {net : NetSettings} {hooks : Hooks ι} {site : Site δ} {started : Server δ ι}
    (begins : Server.start { net, hooks, site } true = .ok started) :
    started.Calm ∧ started.ledger.Numbered [] ∧ started.ledger.Tidy [] := by
  -- A start that fails leaves no server to speak of.
  simp only [Server.start] at begins
  split at begins
  · cases begins
  split at begins
  · cases begins
  · cases begins
    refine ⟨⟨rfl, nofun⟩, ⟨rfl, List.Pairwise.nil, nofun, nofun⟩, ?_⟩
    exact ⟨fun _ _ => rfl, nofun, nofun, fun _ served => absurd rfl served, nofun,
      fun _ _ => ⟨rfl, nofun⟩, nofun⟩

variable [Transferable ι] [Reversible ι] [Depot δ ι]

/-- Everything stays in order on a run on which nobody stops the server. -/
theorem Runs.orderly {server after : Server δ ι} {moves : List Move} {marks : List Mark}
    (run : server.Runs moves marks after) (unstopped : ∀ move ∈ moves, move.stops = false)
    (calm : server.Calm) (numbered : server.ledger.Numbered []) (tidy : server.ledger.Tidy []) :
    after.Calm ∧ after.ledger.Numbered marks ∧ after.ledger.Tidy marks := by
  -- The run is followed from its first state.
  induction run with
  | refl => exact ⟨calm, numbered, tidy⟩
  | tail run stepped ih =>
    obtain ⟨calm, numbered, tidy⟩ := ih fun move member =>
      unstopped move (List.mem_append_left _ member)
    obtain ⟨moves, calm⟩ := step_ledger calm stepped (unstopped _ (by simp))
    exact ⟨calm, moves.numbered numbered, moves.stays_tidy numbered tidy⟩

/--
Links that have been served leave no trace.

A server is started, and from then on the acceptor, the services and calls from outside take their
steps in any order, whatever the sockets answer, but nobody stops the server. Then the accepted
sockets get numbers in the order in which they have been accepted, each a higher one than all before
it; a link whose service has left the table is served by nobody any more, and is neither in the table
nor in the registry; under every number in the registry is the link that has got this number; and a
service whose round has not returned is one that has not left the table.
-/
theorem Runs.leaves_no_trace {net : NetSettings} {hooks : Hooks ι} {site : Site δ}
    {started last : Server δ ι} {moves : List Move} {marks : List Mark}
    (begins : Server.start { net, hooks, site } true = .ok started)
    (run : started.Runs moves marks last)
    (unstopped : ∀ move ∈ moves, move.stops = false) :
    let given := Mark.assignments marks
    (marks.filterMap Mark.accepted? = given.map Prod.snd ++ last.acceptor.inHand ∧
      (given.map Prod.fst).Pairwise (· < ·)) ∧
    (∀ id, .finished id ∈ marks →
      id ∉ last.table ∧ id ∉ last.registry ∧ last.services.get? id = none) ∧
    (∀ id ∈ last.registry, ∃ link, last.links.get? id = some link ∧ link.id = id ∧
      (id, link.socket) ∈ given) ∧
    ∀ id, last.services.get? id = some .fallen →
      .finished id ∉ marks ∧ (id ∈ last.table ∨ last.acceptor = .list id) := by
  -- All of it is read off the ledger at the end of the run.
  intro given
  obtain ⟨calm, numbered, tidy⟩ := ledger_start begins
  obtain ⟨_, numbered, tidy⟩ := run.orderly unstopped calm numbered tidy
  refine ⟨⟨numbered.order, numbered.rising⟩, fun id finished => ?_, fun id member => ?_,
    fun id fallen => ⟨fun finished => ?_, ?_⟩⟩
  · obtain ⟨_, absent⟩ := tidy.finished id finished
    obtain ⟨unlisted, unregistered⟩ := tidy.nowhere absent
    exact ⟨unlisted, unregistered, absent.1⟩
  · -- Whoever is in the registry has got a number, or it would be absent.
    by_cases assigned : ∃ socket, .assigned id socket ∈ marks
    · obtain ⟨socket, assigned⟩ := assigned
      have member := Mark.mem_assignments.mpr assigned
      obtain ⟨link, found, label⟩ := Option.map_eq_some_iff.mp (numbered.labelled _ member)
      cases Prod.mk.inj label with
      | intro same other => exact ⟨link, found, same, other ▸ member⟩
    · have absent := tidy.future id fun socket member => assigned ⟨socket, member⟩
      exact absurd member (tidy.nowhere absent).2
  · -- Whoever has left the table is not served at all.
    obtain ⟨_, gone, _⟩ := tidy.finished id finished
    cases gone.symm.trans fallen
  · exact tidy.kept id fun gone => by cases gone.symm.trans fallen

/-- A service whose round has not returned takes no step any more. -/
theorem serve_fallen {server : Server δ ι} {id : Nat}
    (fallen : server.services.get? id = some .fallen) (cue : Cue) : server.serve id cue = none := by
  -- Neither its link nor the socket matters.
  rw [serve, fallen]
  cases server.links.get? id with
  | none => rfl
  | some link => rfl

/-- The run in which some steps are taken one after the other, with what can be told of it. -/
def replay : List Move → Server δ ι → Option (List Mark × Server δ ι)
  | [], server => some ([], server)
  | move :: moves, server => do
    let between ← server.step move
    let (marks, last) ← replay moves between
    some (server.marks move between ++ marks, last)

/-- Steps that can be taken make a run longer. -/
theorem Runs.replay {server between after : Server δ ι} {done moves : List Move}
    {told marks : List Mark} (run : server.Runs done told between)
    (replayed : Server.replay moves between = some (marks, after)) :
    server.Runs (done ++ moves) (told ++ marks) after := by
  -- The first of them makes the first step.
  induction moves generalizing between done told marks with
  | nil =>
    cases replayed
    rw [List.append_nil, List.append_nil]
    exact run
  | cons move moves ih =>
    simp only [Server.replay, Option.bind_eq_bind, Option.bind_eq_some_iff] at replayed
    obtain ⟨next, stepped, ⟨others, last⟩, rest, same⟩ := replayed
    cases same
    have longer := ih (run.tail stepped) rest
    rw [List.append_assoc, List.append_assoc] at longer
    exact longer

/--
Two sockets are accepted one after the other; the link of the first one is closed from outside, so
that its service finishes before the second one is accepted.
-/
theorem Runs.leaves_no_trace_closed :
    let pass (id steps : Nat) : List Move := List.replicate steps (.serve id ⟨.receive, .pending⟩)
    let accept (socket : Nat) : List Move := .accept socket true :: List.replicate 4 .advance
    let close : List Move := .call (.remove 1) :: List.replicate 5 (.attend 0 .pending)
    let moves := accept 7 ++ pass 1 3 ++ close ++ pass 1 3 ++ accept 8
    ∃ started marks, ∃ last : Server MemoryDepot Parcel,
      Server.start { net := {}, hooks := .none, site := { depot := {} } } true = .ok started ∧
      started.Runs moves marks last ∧ .finished 1 ∈ marks ∧
      Mark.assignments marks = [(1, 7), (2, 8)] ∧ 1 ∉ last.table ∧ 1 ∉ last.registry ∧
      last.registry = [2] ∧ ∃ link, last.links.get? 2 = some link ∧ link.socket = 8 := by
  -- The standard settings pass their check, so the server starts.
  intro pass accept close moves
  let fresh : Server MemoryDepot Parcel := { net := {}, hooks := .none, site := { depot := {} } }
  let started := { fresh with running := true, askable := true, acceptor := .idle }
  have begins : Server.start fresh true = .ok started := by
    have checked : fresh.net.settings.check = .ok () := by decide +kernel
    simp only [Server.start, checked]
    rfl
  -- The first of two links is closed, and the second one is still there.
  have replayed : (started.replay moves).any (fun (marks, last) =>
      .finished 1 ∈ marks ∧ Mark.assignments marks = [(1, 7), (2, 8)] ∧ last.registry = [2]) =
        true := by
    decide +kernel
  obtain ⟨⟨marks, last⟩, replayed, reached⟩ := (Option.any_eq_true _ _).mp replayed
  obtain ⟨finished, given, registry⟩ := of_decide_eq_true reached
  have run : started.Runs moves marks last := Runs.refl.replay replayed
  -- The theorem says that nothing is left of the first one, and to which socket the second belongs.
  obtain ⟨_, gone, registered, _⟩ := run.leaves_no_trace begins (by decide)
  obtain ⟨unlisted, unregistered, _⟩ := gone 1 finished
  obtain ⟨link, found, _, assigned⟩ := registered 2 (registry ▸ List.mem_singleton_self 2)
  have second : link.socket = 8 := by
    rw [given] at assigned
    simpa using assigned
  exact ⟨started, marks, last, begins, run, finished, given, unlisted, unregistered, registry, link,
    found, second⟩

/--
A request that announces an item larger than any allocation: the round does not return, and the link
stays in the table and in the registry with nobody left to serve it.
-/
theorem Runs.leaves_fallen :
    let settings : Settings :=
      { headerCapacity := 200, messageCapacity := 40, batchSize := 2, runLength := 2 }
    let header : Header :=
      { identity := { id := "c" }, items := [⟨"a", 18446744073709551615, 1⟩], itemsCount := 1 }
    let cues := Cue.deliver 7 (Round.headerFrame settings header) ++ Cue.pass .receive 2
    let moves : List Move :=
      .accept 7 true :: List.replicate 4 .advance ++ cues.map (.serve 1)
    ∃ started marks, ∃ last : Server MemoryDepot Parcel,
      Server.start { net := { settings }, hooks := .none, site := { depot := {} } } true =
        .ok started ∧
      started.Runs moves marks last ∧ (∀ move ∈ moves, move.stops = false) ∧
      last.services.get? 1 = some .fallen ∧ (∀ cue, last.serve 1 cue = none) ∧
      1 ∈ last.table ∧ 1 ∈ last.registry := by
  -- Small sizes pass their check as well, so the server starts.
  intro settings header cues moves
  let fresh : Server MemoryDepot Parcel :=
    { net := { settings }, hooks := .none, site := { depot := {} } }
  let started := { fresh with running := true, askable := true, acceptor := .idle }
  have begins : Server.start fresh true = .ok started := by
    have checked : fresh.net.settings.check = .ok () := by decide +kernel
    simp only [Server.start, checked]
    rfl
  -- The header of an item that fits no memory arrives on the first link.
  have replayed : (started.replay moves).any (fun (_, last) =>
      last.services.get? 1 = some .fallen ∧ 1 ∈ last.table ∧ 1 ∈ last.registry) = true := by
    decide +kernel
  obtain ⟨⟨marks, last⟩, replayed, reached⟩ := (Option.any_eq_true _ _).mp replayed
  obtain ⟨fallen, listed, registered⟩ := of_decide_eq_true reached
  exact ⟨started, marks, last, begins, Runs.refl.replay replayed, by decide +kernel, fallen,
    serve_fallen fallen, listed, registered⟩

end Server

end SentinelRounds
