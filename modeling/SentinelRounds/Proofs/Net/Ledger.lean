import SentinelRounds.Proofs.Depot.Memory
import SentinelRounds.Proofs.Net.Serving
import SentinelRounds.Proofs.Net.States

/-! What the steps of a server that nobody stops do to its links and to its two tables. -/

namespace SentinelRounds

/-- What happens to a link that can be told later on. -/
inductive Mark
  /-- A socket has been accepted, and its options have been set. -/
  | accepted (socket : Nat)
  /-- The link of a socket has got its number. -/
  | assigned (id socket : Nat)
  /-- The service of a link has finished. -/
  | finished (id : Nat)
  deriving DecidableEq, Repr

/-- The link that the acceptor is bringing in, once it has a number. -/
def Acceptor.number? : Acceptor → Option Nat
  | .enroll id | .start id | .list id => some id
  | _ => none

/-- Whether the acceptor is not bringing in anything. -/
def Acceptor.isFree : Acceptor → Bool
  | .absent | .idle | .leaving => true
  | _ => false

/-- Whether a service is done with its link, which it leaves to nobody. -/
def Service.isLeaving : Service → Bool
  | .shut _ | .farewell | .retire => true
  | _ => false

/-- Whether a call from outside stops the server. -/
def Caller.stops : Caller → Bool
  | .stop | .ask | .abort | .clear | .shutAll _ _ => true
  | _ => false

/-- Whether a step begins to stop the server. -/
def Move.stops : Move → Bool
  | .call caller => caller.stops
  | _ => false

/-- The number and the socket of a link. -/
def Link.label {ι : Type} (link : Link ι) : Nat × Nat := (link.id, link.socket)

/-- What goes in and out of the tables of a server depends on these. -/
structure Ledger where
  acceptor : Acceptor
  nextId : Nat
  /-- What each link is labelled with. -/
  labels : Nat → Option (Nat × Nat)
  registry : List Nat
  services : Nat → Option Service
  table : List Nat

namespace Ledger

/-- The ledger once the service of a link has come to stand elsewhere, or is gone. -/
def put (ledger : Ledger) (id : Nat) (service : Option Service) : Ledger :=
  { ledger with
    services := fun other => if other = id then service else ledger.services other }

/-- The ledger without a link in the registry. -/
def release (ledger : Ledger) (id : Nat) : Ledger :=
  { ledger with registry := ledger.registry.filter fun other => other ≠ id }

/-- One step of somebody in a server that nobody stops. -/
inductive Moves (before : Ledger) : List Mark → Ledger → Prop
  | rest : Moves before [] before
  | turn {acceptor : Acceptor} (free : before.acceptor.isFree = true)
      (still : acceptor.isFree = true) : Moves before [] { before with acceptor }
  | accept (socket : Nat) (idle : before.acceptor = .idle) :
    Moves before [.accepted socket] { before with acceptor := .opened socket }
  | wrap {socket : Nat} (opened : before.acceptor = .opened socket) :
    Moves before [.assigned before.nextId socket]
      { before with
        nextId := before.nextId + 1
        labels := fun other =>
          if other = before.nextId then some (before.nextId, socket) else before.labels other
        acceptor := .enroll before.nextId }
  | enroll {id : Nat} (enrolls : before.acceptor = .enroll id) :
    Moves before [] { before with registry := before.registry ++ [id], acceptor := .start id }
  | start {id : Nat} (starts : before.acceptor = .start id) :
    Moves before [] { before.put id (some .greet) with acceptor := .list id }
  | list {id : Nat} (lists : before.acceptor = .list id) :
    Moves before [] { before with table := before.table ++ [id], acceptor := .idle }
  | serve {id : Nat} {service onward : Service} (serves : before.services id = some service)
      (leaves : onward.isLeaving = true → service.isLeaving = true ∨ id ∉ before.registry) :
    Moves before [] (before.put id (some onward))
  | unregister {id : Nat} (serves : before.services id = some .unregister) (onward : Service) :
    Moves before [] ((before.release id).put id (some onward))
  | remove (id : Nat) : Moves before [] (before.release id)
  | retire {id : Nat} (serves : before.services id = some .retire)
      (unheld : ∀ other, before.acceptor ≠ .list other) :
    Moves before [.finished id]
      { before.put id none with table := before.table.filter fun other => other ≠ id }

end Ledger

namespace Server

variable {δ ι : Type}

/-- The part of a server that its tables depend on. -/
def ledger (server : Server δ ι) : Ledger where
  acceptor := server.acceptor
  nextId := server.nextId
  labels id := (server.links.get? id).map Link.label
  registry := server.registry
  services := server.services.get?
  table := server.table

/-- What can be told of a step from one server to another. -/
def marks (before : Server δ ι) (move : Move) (after : Server δ ι) : List Mark :=
  match move with
  | .accept socket ready => if ready then [.accepted socket] else []
  | .advance =>
    match before.acceptor with
    | .opened socket => [.assigned before.nextId socket]
    | _ => []
  | .serve id _ | .drop id =>
    if before.services.contains id ∧ after.services.contains id = false then [.finished id] else []
  | .call _ | .attend _ _ => []

/-- Nobody stops a server, and nobody has. -/
structure Calm (server : Server δ ι) : Prop where
  spared : server.doomed = []
  calm : ∀ caller ∈ server.callers, caller.stops = false

/-- A link that is put back under its number keeps its label. -/
theorem ledger_links {server : Server δ ι} {id : Nat} {link last : Link ι}
    {note : Option LinkState} (found : server.links.get? id = some link)
    (notes : link.Notes note last) :
    ({ server with links := server.links.insert id last } : Server δ ι).ledger = server.ledger := by
  -- The label of a link is its number and its socket.
  have same : last.label = link.label := by rw [Link.label, Link.label, notes.id, notes.socket]
  have labels : (fun other => ((server.links.insert id last).get? other).map Link.label) =
      fun other => (server.links.get? other).map Link.label := by
    funext other
    rw [Keyed.get?_insert]
    split
    · rename_i here
      rw [here, found, Option.map_some, Option.map_some, same]
    · rfl
  simp only [ledger, labels]

/-- So does a link whose service has taken a step. -/
theorem ledger_store {server : Server δ ι} {id : Nat} {link last : Link ι}
    {note : Option LinkState} (found : server.links.get? id = some link)
    (notes : link.Notes note last) (service : Service) (site : Site δ) :
    (server.store id service last site).ledger = server.ledger.put id (some service) := by
  -- The service is put down next to the link.
  have same := congrArg (Ledger.put · id (some service)) (ledger_links found notes)
  refine Eq.trans ?_ same
  simp only [ledger, store, Ledger.put, Ledger.mk.injEq, true_and, and_true]
  funext other
  exact Keyed.get?_insert ..

/-- As long as a service stands somewhere, there is nothing to tell of its steps. -/
theorem moves_of_stands {server after : Server δ ι} {id : Nat} {service : Service} (cue : Cue)
    (stands : after.services.get? id = some service)
    (moves : server.ledger.Moves [] after.ledger) :
    server.ledger.Moves (server.marks (.serve id cue) after) after.ledger := by
  -- A service that is still there has not finished.
  have unmarked : server.marks (.serve id cue) after = [] := by
    refine if_neg fun finished => ?_
    obtain ⟨_, gone⟩ := finished
    rw [Keyed.contains, stands] at gone
    cases gone
  rw [unmarked]
  exact moves

/-- A service that finishes takes itself out of the table. -/
theorem ledger_dismiss (server : Server δ ι) (id : Nat) :
    (server.dismiss id).ledger =
      { server.ledger.put id none with table := server.table.filter fun other => other ≠ id } := by
  -- The ledger looks services up one by one.
  simp only [ledger, dismiss, Ledger.put, Ledger.mk.injEq, true_and, and_true]
  funext other
  exact Keyed.get?_erase ..

/-- Then it can be told that it has finished. -/
theorem marks_dismiss {server : Server δ ι} {id : Nat} {service : Service} (cue : Cue)
    (stands : server.services.get? id = some service) :
    server.marks (.serve id cue) (server.dismiss id) = [.finished id] := by
  -- It has been there, and is not any more.
  refine if_pos ⟨?_, ?_⟩
  · rw [Keyed.contains, stands]
    rfl
  · rw [Keyed.contains, dismiss, Keyed.get?_erase, if_pos rfl]
    rfl

/-- Whoever gets at the table finds that the acceptor does not hold it. -/
theorem unheld_of_not_listing {server : Server δ ι} (free : ¬ server.isListing = true) (id : Nat) :
    server.ledger.acceptor ≠ .list id := by
  -- An acceptor that held the table would be listing.
  intro lists
  have lists : server.acceptor = .list id := lists
  rw [isListing, lists] at free
  exact free rfl

/-- A step of the acceptor brings a link in, one table after the other. -/
theorem advance_ledger [Reversible ι] {server after : Server δ ι}
    (stepped : server.advance = some after) :
    server.ledger.Moves (server.marks .advance after) after.ledger ∧
      after.callers = server.callers ∧ after.doomed = server.doomed := by
  -- The cases are the stages of the acceptor.
  unfold advance at stepped
  unfold marks
  cases stage : server.acceptor with
  | absent =>
    rw [stage] at stepped
    cases stepped
  | idle =>
    simp only [stage] at stepped
    split at stepped <;> cases stepped
    exact ⟨.turn (congrArg Acceptor.isFree stage) rfl, rfl, rfl⟩
  | opened socket =>
    -- Wrapping a socket takes a number and labels it.
    simp only [stage, Option.some.injEq] at stepped
    subst stepped
    have wrapped : (server.wrap socket).ledger =
        { server.ledger with
          nextId := server.nextId + 1
          labels := fun other =>
            if other = server.nextId then some (server.nextId, socket)
            else server.ledger.labels other
          acceptor := .enroll server.nextId } := by
      simp only [ledger, wrap, Ledger.mk.injEq, true_and, and_true]
      funext other
      rw [Keyed.get?_insert]
      split <;> rfl
    exact ⟨(congrArg (server.ledger.Moves _) wrapped).mpr (.wrap stage), rfl, rfl⟩
  | enroll id =>
    simp only [stage, Option.some.injEq] at stepped
    subst stepped
    exact ⟨.enroll stage, rfl, rfl⟩
  | start id =>
    -- Starting a service gives its number a place among the services.
    simp only [stage, Option.some.injEq] at stepped
    subst stepped
    have started :
        ({ server with
            services := server.services.insert id .greet
            acceptor := .list id } : Server δ ι).ledger =
          { server.ledger.put id (some .greet) with acceptor := .list id } := by
      simp only [ledger, Ledger.put, Ledger.mk.injEq, true_and, and_true]
      funext other
      exact Keyed.get?_insert ..
    exact ⟨(congrArg (server.ledger.Moves _) started).mpr (.start stage), rfl, rfl⟩
  | list id =>
    simp only [stage, Option.some.injEq] at stepped
    subst stepped
    exact ⟨.list stage, rfl, rfl⟩
  | leaving =>
    simp only [stage, Option.some.injEq] at stepped
    subst stepped
    exact ⟨.turn (congrArg Acceptor.isFree stage) rfl, rfl, rfl⟩

/-- A socket is accepted only by an acceptor that is waiting for one. -/
theorem accept_ledger {server after : Server δ ι} {socket : Nat} {ready : Bool}
    (stepped : server.accept socket ready = some after) :
    server.ledger.Moves (server.marks (.accept socket ready) after) after.ledger ∧
      after.callers = server.callers ∧ after.doomed = server.doomed := by
  -- In any other stage the step is not possible.
  unfold accept at stepped
  cases stage : server.acceptor with
  | idle =>
    simp only [stage, Option.some.injEq] at stepped
    subst stepped
    cases ready with
    | true => exact ⟨.accept socket stage, rfl, rfl⟩
    | false => exact ⟨.rest, rfl, rfl⟩
  | _ =>
    simp only [stage] at stepped
    cases stepped

variable [Transferable ι] [Reversible ι] [Depot δ ι]

section

variable {server after : Server δ ι} {id : Nat} {cue : Cue} {service : Service} {link : Link ι}

/-- A service that follows a plan stays with its link. -/
theorem follow_ledger {plan : Plan} {onward : Plan → Service}
    (stands : server.services.get? id = some service) (found : server.links.get? id = some link)
    (stays : ∀ plan, (onward plan).isLeaving = false)
    (followed : ((plan.step server.hooks (server.registry.contains id) cue.reply link server.site).map
      fun (progress, link, site) =>
        match progress with
        | .going plan => server.store id (onward plan) link site
        | .failed fault =>
          server.store id (if fault.isFatal then .fallen else .unregister) link site
        | .lost => server.store id .unregister link site) = some after) :
    server.ledger.Moves (server.marks (.serve id cue) after) after.ledger ∧
      after.callers = server.callers ∧ after.doomed = server.doomed := by
  -- The plan keeps the link, so only the place of the service can change.
  obtain ⟨⟨progress, last, site⟩, stepped, rfl⟩ := Option.map_eq_some_iff.mp followed
  have notes := Plan.notes_step stepped
  have moves (next : Service) (stays : next.isLeaving = false) :
      server.ledger.Moves (server.marks (.serve id cue) (server.store id next last site))
        (server.store id next last site).ledger := by
    refine moves_of_stands cue (at_store ..).service ?_
    rw [ledger_store found notes]
    exact .serve stands fun leaves => by rw [stays] at leaves; cases leaves
  cases progress with
  | going plan => exact ⟨moves _ (stays plan), rfl, rfl⟩
  | failed fault =>
    -- Even a service that does not return stays where the tables have it.
    refine ⟨moves _ ?_, rfl, rfl⟩
    split <;> rfl
  | lost => exact ⟨moves _ rfl, rfl, rfl⟩

/-- A step of a service changes the ledger as a service may, and calls from outside not at all. -/
theorem serve_ledger (served : server.serve id cue = some after) :
    server.ledger.Moves (server.marks (.serve id cue) after) after.ledger ∧
      after.callers = server.callers ∧ (server.doomed = [] → after.doomed = []) := by
  -- A step needs a service and its link.
  simp only [serve, Option.bind_eq_bind, Option.bind_eq_some_iff] at served
  obtain ⟨service, stands, link, found, served⟩ := served
  have unused : link.Notes none link := ⟨rfl, rfl, rfl⟩
  -- Most steps only say where the service stands next, and what has become of its link.
  have moves (next : Service) {last : Link ι} {note : Option LinkState} (site : Site δ)
      (notes : link.Notes note last)
      (leaves : next.isLeaving = true → service.isLeaving = true ∨ id ∉ server.registry) :
      server.ledger.Moves (server.marks (.serve id cue) (server.store id next last site))
        (server.store id next last site).ledger := by
    refine moves_of_stands cue (at_store ..).service ?_
    rw [ledger_store found notes]
    exact .serve stands leaves
  have plain (next : Service) (stays : next.isLeaving = false) :=
    moves next server.site unused fun leaves => by rw [stays] at leaves; cases leaves
  cases service with
  | greet | mode =>
    cases served
    exact ⟨plain _ rfl, rfl, fun spared => spared⟩
  | report =>
    cases served
    refine ⟨plain _ ?_, rfl, fun spared => spared⟩
    split <;> rfl
  | farewell =>
    cases served
    exact ⟨moves .retire server.site unused fun _ => .inl rfl, rfl, fun spared => spared⟩
  | shut shutdown =>
    cases served
    exact ⟨moves _ server.site (shutdown.notes_step link) fun _ => .inl rfl, rfl,
      fun spared => spared⟩
  | request plan =>
    have stays (plan : Plan) : (if plan = [] then Service.mode else .request plan).isLeaving =
        false := by
      split <;> rfl
    obtain ⟨moves, callers, doomed⟩ := follow_ledger stands found stays served
    exact ⟨moves, callers, doomed.trans⟩
  | halves incoming outgoing =>
    have stays (incoming outgoing : Plan) :
        (Service.ofHalves incoming outgoing).isLeaving = false := by
      unfold Service.ofHalves
      split <;> rfl
    rcases cue with ⟨half, reply⟩
    cases half with
    | receive =>
      obtain ⟨moves, callers, doomed⟩ := follow_ledger stands found (stays · outgoing) served
      exact ⟨moves, callers, doomed.trans⟩
    | send =>
      obtain ⟨moves, callers, doomed⟩ := follow_ledger stands found (stays incoming) served
      exact ⟨moves, callers, doomed.trans⟩
  | unregister =>
    simp only at served
    split at served
    · -- The service takes the link out of the registry itself, and then shuts it down.
      cases served
      have stands' := (server.at_store id (.shut .announce) link server.site).service
      have stored := ledger_store found unused (.shut .announce) server.site
      have released := congrArg (Ledger.release · id) stored
      have moves := (congrArg (server.ledger.Moves []) released).mpr (.unregister stands _)
      exact ⟨moves_of_stands cue stands' moves, rfl, fun spared => spared⟩
    · rename_i unregistered
      cases served
      have absent : id ∉ server.registry := fun member =>
        unregistered (List.contains_iff_mem.mpr member)
      exact ⟨moves .retire server.site unused fun _ => .inr absent, rfl, fun spared => spared⟩
  | retire =>
    simp only at served
    split at served
    · cases served
    · rename_i free
      cases served
      refine ⟨?_, rfl, fun spared => ?_⟩
      · rw [marks_dismiss cue stands, ledger_dismiss]
        exact .retire stands (unheld_of_not_listing free)
      · rw [dismiss, spared]
        rfl
  | fallen => cases served

end

/-- A step of a call from outside that does not stop the server takes at most a link out. -/
theorem attend_ledger {server after : Server δ ι} {index : Nat} {reply : Reply}
    (calm : server.Calm) (stepped : server.attend index reply = some after) :
    server.ledger.Moves [] after.ledger ∧ after.Calm := by
  -- A step needs a call that is under way.
  simp only [attend, Option.bind_eq_bind, Option.bind_eq_some_iff] at stepped
  obtain ⟨caller, acts, stepped⟩ := stepped
  have quiet := calm.calm caller (List.mem_of_getElem? acts)
  -- Whoever is not stopping the server goes on without stopping it.
  have kept {other : Server δ ι} {next : Caller} (spared : other.doomed = server.doomed)
      (same : other.callers = server.callers) (calmly : next.stops = false) :
      (other.keep index next).Calm := by
    refine ⟨spared.trans calm.spared, fun caller member => ?_⟩
    simp only [keep, same] at member
    rcases List.mem_or_eq_of_mem_set member with old | rfl
    · exact calm.calm caller old
    · exact calmly
  cases caller with
  | remove id =>
    simp only at stepped
    split at stepped <;> cases stepped
    · exact ⟨.remove id, kept rfl rfl rfl⟩
    · exact ⟨.rest, kept rfl rfl rfl⟩
  | shut id shutdown =>
    cases stepped
    unfold shutLink
    split
    · exact ⟨.rest, kept rfl rfl rfl⟩
    · rename_i link found
      have same := ledger_links found (shutdown.notes_step link)
      refine ⟨(congrArg (server.ledger.Moves []) same).mpr .rest, kept rfl rfl ?_⟩
      simp only
      split <;> rfl
  | «using» id plan =>
    simp only at stepped
    split at stepped
    · cases stepped
      exact ⟨.rest, kept rfl rfl rfl⟩
    · rename_i link found
      obtain ⟨⟨progress, last, site⟩, moved, rfl⟩ := Option.map_eq_some_iff.mp stepped
      have same := ledger_links found (Plan.notes_step moved)
      have moves := (congrArg (server.ledger.Moves []) same).mpr .rest
      cases progress with
      | going plan =>
        refine ⟨moves, kept rfl rfl ?_⟩
        split <;> rfl
      | failed | lost => exact ⟨moves, kept rfl rfl rfl⟩
  | stop | ask | abort | clear | shutAll => cases quiet
  | succeeded | failed => cases stepped

/-- A run of a server, in which anybody may take the next step, and what can be told of it. -/
inductive Runs (server : Server δ ι) : List Move → List Mark → Server δ ι → Prop
  | refl : Runs server [] [] server
  | tail {between after : Server δ ι} {moves : List Move} {marks : List Mark} {move : Move}
      (run : Runs server moves marks between) (stepped : between.step move = some after) :
    Runs server (moves ++ [move]) (marks ++ between.marks move after) after

/-- As long as nobody begins to stop a server, every step changes the ledger in one of these ways. -/
theorem step_ledger {server after : Server δ ι} {move : Move} (calm : server.Calm)
    (stepped : server.step move = some after) (unstopped : move.stops = false) :
    server.ledger.Moves (server.marks move after) after.ledger ∧ after.Calm := by
  -- Most steps leave the calls from outside as they were.
  have still (callers : after.callers = server.callers)
      (spared : server.doomed = [] → after.doomed = []) : after.Calm :=
    ⟨spared calm.spared, callers ▸ calm.calm⟩
  cases move with
  | accept socket ready =>
    obtain ⟨moves, callers, doomed⟩ := accept_ledger stepped
    exact ⟨moves, still callers doomed.trans⟩
  | advance =>
    obtain ⟨moves, callers, doomed⟩ := advance_ledger stepped
    exact ⟨moves, still callers doomed.trans⟩
  | serve id cue =>
    obtain ⟨moves, callers, doomed⟩ := serve_ledger stepped
    exact ⟨moves, still callers doomed⟩
  | drop id =>
    -- Nobody is aborted, so nobody can be dropped.
    simp only [step, calm.spared] at stepped
    cases stepped
  | call caller =>
    cases stepped
    refine ⟨.rest, calm.spared, fun other member => ?_⟩
    rcases List.mem_append.mp member with old | new
    · exact calm.calm other old
    · exact List.mem_singleton.mp new ▸ unstopped
  | attend index reply => exact attend_ledger calm stepped

end Server

end SentinelRounds
