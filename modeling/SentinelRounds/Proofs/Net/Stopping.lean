import SentinelRounds.Proofs.Net.Tables

/-! A server that is stopped gives up what has come in before; what comes in meanwhile may stay. -/

namespace SentinelRounds

namespace Caller

/-- Whether a stop has not emptied anything yet. -/
def isEarly : Caller → Bool
  | .stop | .ask | .abort => true
  | _ => false

/-- How many of its steps a stop has taken, up to where it only has links to shut down. -/
def progress : Caller → Nat
  | .ask => 1
  | .abort => 2
  | .clear => 3
  | .shutAll _ _ | .succeeded => 4
  | _ => 0

/-- Whether a call from outside is about a single link. -/
def isSingle : Caller → Bool
  | .remove _ | .shut _ _ | .using _ _ => true
  | _ => false

end Caller

namespace Server

variable {δ ι : Type}

/-- The acceptor brings nothing in any more. -/
def IsClosed (server : Server δ ι) : Prop :=
  server.acceptor = .absent ∨ server.acceptor = .leaving

/-- The acceptor has left or is about to, or it has been asked to leave. -/
def Leaves (server : Server δ ι) : Prop := server.IsClosed ∨ server.asked = true

/-- The acceptor leaves, or can still be asked to. -/
def Hears (server : Server δ ι) : Prop := server.Leaves ∨ server.askable = true

/-- A step by which nothing comes in. -/
structure Fades (before after : Server δ ι) : Prop where
  acceptor : after.acceptor = before.acceptor
  asked : after.asked = before.asked
  askable : after.askable = before.askable
  registry : after.registry ⊆ before.registry
  table : after.table ⊆ before.table

/-- A step by which nothing comes in but what comes late. -/
structure Grows (late : Nat → Prop) (before after : Server δ ι) : Prop where
  closed : before.IsClosed → after.IsClosed
  hears : before.Hears → after.Hears
  deaf : before.askable = false → after.askable = false
  number : ∀ id, after.acceptor.number? = some id → late id
  registry : ∀ id ∈ after.registry, id ∈ before.registry ∨ late id
  table : ∀ id ∈ after.table, id ∈ before.table ∨ late id

/-- One step of a call from outside, from where it stands to where it stands next. -/
inductive Turns (before after : Server δ ι) : Caller → Caller → Prop
  -- The first two are the same step, which looks whether the server runs.
  | see (fades : before.Fades after) : Turns before after .stop .ask
  | refuse (fades : before.Fades after) : Turns before after .stop (.failed .notRunning)
  | ask (acceptor : after.acceptor = before.acceptor) (registry : after.registry = before.registry)
      (table : after.table = before.table) (askable : after.askable = false)
      (asked : after.asked = (before.asked || before.askable)) : Turns before after .ask .abort
  | abort (fades : before.Fades after) (emptied : after.table = []) :
    Turns before after .abort .clear
  | clear (fades : before.Fades after) (emptied : after.registry = []) (ids : List Nat) :
    Turns before after .clear (.shutAll .announce ids)
  | shut (fades : before.Fades after) (shutdown onward : Shutdown) (ids others : List Nat) :
    Turns before after (.shutAll shutdown ids) (.shutAll onward others)
  | finish (fades : before.Fades after) (shutdown : Shutdown) (ids : List Nat) :
    Turns before after (.shutAll shutdown ids) .succeeded
  /-- Where a call about a single link goes on does not matter to a stop. -/
  | single {caller : Caller} (fades : before.Fades after) (single : caller.isSingle = true)
      (next : Caller) : Turns before after caller next

/-- How far a stop has come, and what can be left in the tables by then. -/
structure Stops (late : Nat → Prop) (unasked : Prop) (server : Server δ ι) (caller : Caller) :
    Prop where
  whole : caller.isSingle = false
  deaf : unasked → 2 ≤ caller.progress → server.askable = false
  table : 3 ≤ caller.progress → ∀ id ∈ server.table, late id
  registry : 4 ≤ caller.progress → ∀ id ∈ server.registry, late id

/-- A server with good settings that does not run starts where it can listen. -/
theorem start_eq {server : Server δ ι} (still : server.running = false)
    (checked : server.net.settings.check = .ok ()) :
    server.start true =
      .ok { server with running := true, askable := true, asked := false, acceptor := .idle } := by
  simp [start, still, checked]

/-- An acceptor that has left brings no link in. -/
theorem IsClosed.number {server : Server δ ι} (closed : server.IsClosed) (id : Nat) :
    server.acceptor.number? ≠ some id := by
  -- It is absent, or on its way out.
  rcases closed with absent | leaving
  · exact absent ▸ nofun
  · exact leaving ▸ nofun

/-- Nothing comes in where nothing changes but links, services and reports. -/
theorem Fades.of_same {before after : Server δ ι} (acceptor : after.acceptor = before.acceptor)
    (asked : after.asked = before.asked) (askable : after.askable = before.askable)
    (registry : after.registry = before.registry) (table : after.table = before.table) :
    before.Fades after :=
  ⟨acceptor, asked, askable, registry ▸ List.Subset.refl _, table ▸ List.Subset.refl _⟩

/-- Nothing comes in where a link leaves the registry. -/
theorem Fades.release (server : Server δ ι) (id : Nat) {after : Server δ ι}
    (fades : ({ server with
      registry := server.registry.filter fun other => other ≠ id } : Server δ ι).Fades after) :
    server.Fades after :=
  { fades with registry := fun _ member => (List.mem_filter.mp (fades.registry member)).1 }

/-- Nothing comes in by putting the outcome of a step of a service back. -/
theorem fades_store (server : Server δ ι) (id : Nat) (service : Service) (link : Link ι)
    (site : Site δ) : server.Fades (server.store id service link site) :=
  .of_same rfl rfl rfl rfl rfl

/-- Nothing comes in where a service ends. -/
theorem fades_dismiss (server : Server δ ι) (id : Nat) : server.Fades (server.dismiss id) where
  acceptor := rfl
  asked := rfl
  askable := rfl
  registry := List.Subset.refl _
  table := fun _ member => (List.mem_filter.mp member).1

/-- Nothing comes in where a link is shut down. -/
theorem fades_shutLink (server : Server δ ι) (id : Nat) (shutdown : Shutdown) :
    server.Fades (server.shutLink id shutdown).2 ∧
      (server.shutLink id shutdown).2.callers = server.callers := by
  -- A link that is not there has nothing to shut down.
  unfold shutLink
  split
  · exact ⟨.of_same rfl rfl rfl rfl rfl, rfl⟩
  · exact ⟨.of_same rfl rfl rfl rfl rfl, rfl⟩

/-- Where a call stands has nothing to do with what comes in. -/
theorem Fades.keep {before after : Server δ ι} (fades : before.Fades after) (index : Nat)
    (caller : Caller) : before.Fades (after.keep index caller) :=
  ⟨fades.acceptor, fades.asked, fades.askable, fades.registry, fades.table⟩

section

variable {late : Nat → Prop} {before between after : Server δ ι}

/-- By a step by which nothing comes in, nothing comes in but what comes late. -/
theorem Fades.grows (fades : before.Fades after)
    (number : ∀ id, before.acceptor.number? = some id → late id) : before.Grows late after where
  closed := by simp only [IsClosed, fades.acceptor, imp_self]
  hears := by
    simp only [Hears, Leaves, IsClosed, fades.acceptor, fades.asked, fades.askable, imp_self]
  deaf deaf := fades.askable.trans deaf
  number := fades.acceptor ▸ number
  registry _ member := .inl (fades.registry member)
  table _ member := .inl (fades.table member)

/-- An acceptor that is still at the door hears what it has heard before. -/
theorem Grows.onward (opened : ¬ before.IsClosed) (asked : after.asked = before.asked)
    (askable : after.askable = before.askable)
    (number : ∀ id, after.acceptor.number? = some id → late id)
    (registry : ∀ id ∈ after.registry, id ∈ before.registry ∨ late id)
    (table : ∀ id ∈ after.table, id ∈ before.table ∨ late id) : before.Grows late after := by
  -- The door is open, so nothing has been brought in against it.
  refine ⟨fun closed => absurd closed opened, ?_, askable.trans, number, registry, table⟩
  rintro ((closed | heard) | free)
  · exact absurd closed opened
  · exact .inl (.inr (asked.trans heard))
  · exact .inr (askable.trans free)

/-- What comes in by several steps comes late as well. -/
theorem Grows.trans (early : before.Grows late between) (onward : between.Grows late after) :
    before.Grows late after where
  closed := onward.closed ∘ early.closed
  hears := onward.hears ∘ early.hears
  deaf := onward.deaf ∘ early.deaf
  number := onward.number
  registry id member := (onward.registry id member).elim (early.registry id) .inr
  table id member := (onward.table id member).elim (early.table id) .inr

/-- Nothing comes in by a step of a call from outside. -/
theorem Turns.grows {caller next : Caller} (turns : before.Turns after caller next)
    (number : ∀ id, before.acceptor.number? = some id → late id) : before.Grows late after := by
  -- All but one of the steps only take something away.
  cases turns with
  | see fades | refuse fades | abort fades | clear fades | shut fades | finish fades
  | single fades => exact fades.grows number
  | ask acceptor registry table askable asked =>
    refine ⟨?_, fun hears => .inl ?_, fun _ => askable, acceptor ▸ number, ?_, ?_⟩
    · simp only [IsClosed, acceptor, imp_self]
    · -- Whoever could still be asked has been asked now.
      rcases hears with (closed | heard) | free
      · exact .inl (by simpa only [IsClosed, acceptor] using closed)
      · exact .inr (by rw [asked, heard, Bool.true_or])
      · exact .inr (by rw [asked, free, Bool.or_true])
    · exact fun _ member => .inl (registry ▸ member)
    · exact fun _ member => .inl (table ▸ member)

/-- A stop stays where it is while others take their steps. -/
theorem Stops.grow {unasked : Prop} {caller : Caller} (stops : Stops late unasked before caller)
    (grows : before.Grows late after) : Stops late unasked after caller where
  whole := stops.whole
  deaf unasked far := grows.deaf (stops.deaf unasked far)
  table far id member := (grows.table id member).elim (stops.table far id) fun late => late
  registry far id member := (grows.registry id member).elim (stops.registry far id) fun late => late

/-- A stop goes on, and empties what it has to empty on its way. -/
theorem Turns.stops {unasked : Prop} {caller next : Caller} (turns : before.Turns after caller next)
    (stops : Stops late unasked before caller) (grows : before.Grows late after) :
    Stops late unasked after next := by
  -- What has been achieved before the step is not lost by it, so only what it adds is left.
  obtain ⟨whole, deaf, table, registry⟩ := stops.grow grows
  cases turns with
  | see | refuse => exact ⟨rfl, nofun, nofun, nofun⟩
  | ask _ _ _ askable => exact ⟨rfl, fun _ _ => askable, nofun, nofun⟩
  | abort _ emptied =>
    exact ⟨rfl, fun unasked _ => deaf unasked (Nat.le_refl 2), fun _ => emptied ▸ nofun, nofun⟩
  | clear _ emptied =>
    exact ⟨rfl, fun unasked _ => deaf unasked (by decide), fun _ => table (Nat.le_refl 3),
      fun _ => emptied ▸ nofun⟩
  | shut | finish => exact ⟨rfl, deaf, table, registry⟩
  | single _ single => simp [single] at whole

end

variable [Transferable ι] [Reversible ι] [Depot δ ι]

/-- Nothing comes in by a step of a plan that a service follows. -/
theorem follow_fades {server after : Server δ ι} {id : Nat} {cue : Cue} {link : Link ι}
    {plan : Plan} {onward : Plan → Service}
    (followed : ((plan.step server.hooks (server.registry.contains id) cue.reply link
      server.site).map fun (progress, link, site) =>
        match progress with
        | .going plan => server.store id (onward plan) link site
        | .failed fault =>
          server.store id (if fault.isFatal then .fallen else .unregister) link site
        | .lost => server.store id .unregister link site) = some after) :
    server.Fades after ∧ after.callers = server.callers := by
  -- Whatever becomes of the plan, the service and its link are put back.
  obtain ⟨⟨progress, last, site⟩, _, rfl⟩ := Option.map_eq_some_iff.mp followed
  cases progress with
  | going | failed | lost => exact ⟨fades_store .., rfl⟩

/-- Nothing comes in by a step of a service. -/
theorem serve_fades {server after : Server δ ι} {id : Nat} {cue : Cue}
    (served : server.serve id cue = some after) :
    server.Fades after ∧ after.callers = server.callers := by
  -- A step needs a service and its link.
  simp only [serve, Option.bind_eq_bind, Option.bind_eq_some_iff] at served
  obtain ⟨service, _, link, _, served⟩ := served
  cases service with
  | greet | mode | report | farewell | shut =>
    -- These steps change the service alone.
    cases served
    exact ⟨.of_same rfl rfl rfl rfl rfl, rfl⟩
  | request plan => exact follow_fades served
  | halves incoming outgoing =>
    rcases cue with ⟨half, reply⟩
    cases half with
    | receive => exact follow_fades served
    | send => exact follow_fades served
  | unregister =>
    simp only at served
    split at served <;> cases served
    · -- The service gives up its place in the registry, if the lock is free.
      exact ⟨.release server id (.of_same rfl rfl rfl rfl rfl), rfl⟩
    · exact ⟨fades_store .., rfl⟩
  | retire =>
    simp only at served
    split at served <;> cases served
    -- It gives up its place in the table.
    exact ⟨fades_dismiss server id, rfl⟩
  | fallen => cases served

/-- A call from outside goes on as its kind does, and the others stay where they are. -/
theorem attend_turns {server after : Server δ ι} {index : Nat} {reply : Reply}
    (stepped : server.attend index reply = some after) :
    ∃ caller next, server.callers[index]? = some caller ∧
      after.callers = server.callers.set index next ∧ server.Turns after caller next := by
  -- A step needs a call that is under way.
  simp only [attend, Option.bind_eq_bind, Option.bind_eq_some_iff] at stepped
  obtain ⟨caller, acts, stepped⟩ := stepped
  -- Every step changes the call itself; what else it changes does not depend on that.
  have same (next : Caller) : server.Fades (server.keep index next) := .of_same rfl rfl rfl rfl rfl
  refine ⟨caller, ?_⟩
  cases caller with
  | remove id =>
    simp only at stepped
    split at stepped <;> cases stepped
    · have fades := Fades.release server id (.of_same rfl rfl rfl rfl rfl)
      exact ⟨_, acts, rfl, .single (fades.keep index _) rfl _⟩
    · exact ⟨_, acts, rfl, .single (same _) rfl _⟩
  | shut id shutdown =>
    cases stepped
    obtain ⟨fades, callers⟩ := fades_shutLink server id shutdown
    exact ⟨_, acts, congrArg (List.set · index _) callers, .single (fades.keep index _) rfl _⟩
  | «using» id plan =>
    simp only at stepped
    split at stepped
    · cases stepped
      exact ⟨_, acts, rfl, .single (same _) rfl _⟩
    · obtain ⟨⟨progress, last, site⟩, _, rfl⟩ := Option.map_eq_some_iff.mp stepped
      have fades : server.Fades { server with site, links := server.links.insert id last } :=
        .of_same rfl rfl rfl rfl rfl
      cases progress <;> exact ⟨_, acts, rfl, .single (fades.keep index _) rfl _⟩
  | stop =>
    cases stepped
    cases server.running with
    | true => exact ⟨_, acts, rfl, .see (same _)⟩
    | false => exact ⟨_, acts, rfl, .refuse (same _)⟩
  | ask =>
    cases stepped
    exact ⟨_, acts, rfl, .ask rfl rfl rfl rfl rfl⟩
  | abort =>
    simp only at stepped
    split at stepped <;> cases stepped
    have fades :
        server.Fades { server with table := [], doomed := server.doomed ++ server.table } :=
      ⟨rfl, rfl, rfl, List.Subset.refl _, List.nil_subset _⟩
    exact ⟨_, acts, rfl, .abort (fades.keep index _) rfl⟩
  | clear =>
    cases stepped
    have fades : server.Fades { server with registry := [] } :=
      ⟨rfl, rfl, rfl, List.nil_subset _, List.Subset.refl _⟩
    exact ⟨_, acts, rfl, .clear (fades.keep index _) rfl _⟩
  | shutAll shutdown ids =>
    cases ids with
    | nil =>
      cases stepped
      exact ⟨_, acts, rfl, .finish (same _) shutdown []⟩
    | cons id ids =>
      cases stepped
      obtain ⟨fades, callers⟩ := fades_shutLink server id shutdown
      refine ⟨_, acts, congrArg (List.set · index _) callers, ?_⟩
      -- The link in front is shut down further, or the next one is in front.
      split <;> exact .shut (fades.keep index _) _ _ _ _
  | succeeded | failed => cases stepped

omit [Transferable ι] [Depot δ ι] in
/-- What the acceptor brings in by a step comes late, and it does not turn back at the door. -/
theorem advance_grows {late : Nat → Prop} {server after : Server δ ι}
    (stepped : server.advance = some after)
    (number : ∀ id, server.acceptor.number? = some id → late id)
    (assigned : ∀ id socket, .assigned id socket ∈ server.marks .advance after → late id) :
    server.Grows late after := by
  -- What is brought in late may be brought in now.
  have known {list : List Nat} (id : Nat) (member : id ∈ list) : id ∈ list ∨ late id := .inl member
  have fresh {list : List Nat} {id : Nat} (comes : late id) (other : Nat)
      (member : other ∈ list ++ [id]) : other ∈ list ∨ late other := by
    rcases List.mem_append.mp member with old | new
    · exact .inl old
    · exact .inr (List.mem_singleton.mp new ▸ comes)
  have opened (stage : server.acceptor ≠ .absent ∧ server.acceptor ≠ .leaving) :
      ¬ server.IsClosed := not_or.mpr stage
  unfold advance at stepped
  cases stage : server.acceptor with
  | absent => simp [stage] at stepped
  | idle =>
    -- An idle acceptor that turns away from the bell closes nothing and brings nothing in.
    simp only [stage, Option.ite_none_right_eq_some] at stepped
    obtain ⟨_, stepped⟩ := stepped
    cases stepped
    exact ⟨fun _ => .inr rfl, fun _ => .inl (.inl (.inr rfl)), fun deaf => deaf, nofun, known,
      known⟩
  | opened socket =>
    -- The new link takes the next number, which has not been given before.
    have given : late server.nextId := assigned _ socket (by simp [marks, stage])
    simp only [stage] at stepped
    cases stepped
    exact .onward (opened (by simp [stage])) rfl rfl (fun id same => Option.some.inj same ▸ given)
      known known
  | enroll id =>
    -- The number under way comes late to the registry.
    have comes : late id := number id (by rw [stage]; rfl)
    simp only [stage] at stepped
    cases stepped
    exact .onward (opened (by simp [stage])) rfl rfl
      (fun other same => Option.some.inj same ▸ comes) (fresh comes) known
  | start id =>
    have comes : late id := number id (by rw [stage]; rfl)
    simp only [stage] at stepped
    cases stepped
    exact .onward (opened (by simp [stage])) rfl rfl
      (fun other same => Option.some.inj same ▸ comes) known known
  | list id =>
    -- It comes late to the table as well.
    have comes : late id := number id (by rw [stage]; rfl)
    simp only [stage] at stepped
    cases stepped
    exact .onward (opened (by simp [stage])) rfl rfl nofun known (fresh comes)
  | leaving =>
    simp only [stage] at stepped
    cases stepped
    exact ⟨fun _ => .inl rfl, fun _ => .inl (.inl (.inl rfl)), fun deaf => deaf, nofun, known,
      known⟩

/-- Whoever takes the next step, nothing comes in but what comes late. -/
theorem step_grows {late : Nat → Prop} {server after : Server δ ι} {move : Move}
    (stepped : server.step move = some after)
    (number : ∀ id, server.acceptor.number? = some id → late id)
    (assigned : ∀ id socket, .assigned id socket ∈ server.marks move after → late id) :
    server.Grows late after := by
  -- A step that brings nothing in is one by which the tables only shrink.
  have same {next : Server δ ι} (fades : server.Fades next) : server.Grows late next :=
    fades.grows number
  cases move with
  | accept socket ready =>
    simp only [step, accept] at stepped
    cases stage : server.acceptor with
    | idle =>
      simp only [stage, Option.some.injEq] at stepped
      subst stepped
      cases ready with
      | true =>
        -- A socket without a number brings no link in yet.
        have numberless : (Acceptor.opened socket).number? = none := rfl
        exact .onward (by simp [IsClosed, stage]) rfl rfl (by simp [numberless]) (fun _ => .inl)
          (fun _ => .inl)
      | false => exact same (.of_same rfl rfl rfl rfl rfl)
    | _ =>
      simp only [stage] at stepped
      cases stepped
  | advance => exact advance_grows stepped number assigned
  | serve id cue => exact same (serve_fades stepped).1
  | drop id =>
    simp only [step, Option.ite_none_right_eq_some] at stepped
    obtain ⟨_, stepped⟩ := stepped
    cases stepped
    exact same (fades_dismiss server id)
  | call caller =>
    cases stepped
    exact same (.of_same rfl rfl rfl rfl rfl)
  | attend index reply =>
    obtain ⟨_, _, _, _, turns⟩ := attend_turns stepped
    exact turns.grows number

/-- Each step is one of at most one call from outside; others leave the calls alone. -/
theorem step_callers {server after : Server δ ι} {move : Move}
    (stepped : server.step move = some after) :
    (∃ more, after.callers = server.callers ++ more) ∨
      ∃ index caller next, server.callers[index]? = some caller ∧
        after.callers = server.callers.set index next ∧ server.Turns after caller next := by
  -- A step that does not concern the calls leaves them alone.
  have alone {next : Server δ ι} (callers : next.callers = server.callers) :
      ∃ more, next.callers = server.callers ++ more := ⟨[], by rw [callers, List.append_nil]⟩
  cases move with
  | accept socket ready =>
    simp only [step, accept] at stepped
    -- A socket that is refused leaves the calls as well.
    split at stepped <;> cases stepped
    split <;> exact .inl (alone rfl)
  | advance =>
    simp only [step, advance] at stepped
    split at stepped
    case h_1 => cases stepped
    case h_2 =>
      split at stepped <;> cases stepped
      exact .inl (alone rfl)
    all_goals
      -- Whatever its stage is, the acceptor works on the links.
      cases stepped
      exact .inl (alone rfl)
  | serve id cue => exact .inl (alone (serve_fades stepped).2)
  | drop id =>
    simp only [step, Option.ite_none_right_eq_some] at stepped
    obtain ⟨_, stepped⟩ := stepped
    cases stepped
    exact .inl (alone rfl)
  | call caller =>
    cases stepped
    -- A call is put behind the others.
    exact .inl ⟨_, rfl⟩
  | attend index reply =>
    -- Attending a caller is the one step that takes a call further.
    obtain ⟨caller, next, acts, callers, turns⟩ := attend_turns stepped
    exact .inr ⟨index, caller, next, acts, callers, turns⟩

/-- By a run nothing comes in but what comes late. -/
theorem Runs.grows {late : Nat → Prop} {server after : Server δ ι} {moves : List Move}
    {marks : List Mark} (run : server.Runs moves marks after)
    (number : ∀ id, server.acceptor.number? = some id → late id)
    (assigned : ∀ id socket, .assigned id socket ∈ marks → late id) : server.Grows late after := by
  -- What is brought in by a step is told in the marks of the run.
  induction run with
  | refl => exact (Fades.of_same rfl rfl rfl rfl rfl).grows number
  | tail run stepped ih =>
    have early := ih fun id socket member => assigned id socket (List.mem_append_left _ member)
    exact early.trans (step_grows stepped early.number fun id socket member =>
      assigned id socket (List.mem_append_right _ member))

/-- On a run a stop goes on, and empties what it has to empty on its way. -/
theorem Runs.stops {late : Nat → Prop} {unasked : Prop} {server after : Server δ ι}
    {moves : List Move} {marks : List Mark} {index : Nat} {caller : Caller}
    (run : server.Runs moves marks after)
    (number : ∀ id, server.acceptor.number? = some id → late id)
    (assigned : ∀ id socket, .assigned id socket ∈ marks → late id)
    (acts : server.callers[index]? = some caller) (stops : Stops late unasked server caller) :
    ∃ next, after.callers[index]? = some next ∧ Stops late unasked after next := by
  -- Each step is one of the stop itself, or it does not disturb it.
  induction run with
  | refl => exact ⟨caller, acts, stops⟩
  | @tail between after moves marks move run stepped ih =>
    have earlier id socket (member : .assigned id socket ∈ marks) : late id :=
      assigned id socket (List.mem_append_left _ member)
    obtain ⟨stands, acts, stops⟩ := ih earlier
    have grows : between.Grows late after :=
      step_grows stepped (run.grows number earlier).number fun id socket member =>
        assigned id socket (List.mem_append_right _ member)
    obtain ⟨within, _⟩ := List.getElem?_eq_some_iff.mp acts
    rcases step_callers stepped with ⟨more, callers⟩ | ⟨other, caller, next, others, callers, turns⟩
    · exact ⟨stands, by rw [callers, List.getElem?_append_left within, acts], stops.grow grows⟩
    · by_cases same : other = index
      · subst same
        cases acts.symm.trans others
        exact ⟨next, by rw [callers, List.getElem?_set_self within], turns.stops stops grows⟩
      · exact ⟨stands, by rw [callers, List.getElem?_set_ne same, acts], stops.grow grows⟩

omit [Transferable ι] [Reversible ι] [Depot δ ι] in
/-- Only a socket that has been accepted gets a number. -/
theorem opened_of_assigned {server after : Server δ ι} {move : Move} {id socket : Nat}
    (member : .assigned id socket ∈ server.marks move after) :
    server.acceptor = .opened socket := by
  -- Only the acceptor gives numbers, and it does so at one stage.
  unfold marks at member
  split at member
  · split at member <;> simp at member
  · split at member
    case h_1 stage =>
      obtain ⟨_, rfl⟩ := Mark.assigned.inj (List.mem_singleton.mp member)
      exact stage
    case h_2 => cases member
  · split at member <;> simp at member
  · split at member <;> simp at member
  · cases member
  · cases member

/-- Once the acceptor has left, no socket gets a number any more. -/
theorem Runs.closed {server after : Server δ ι} {moves : List Move} {marks : List Mark}
    (run : server.Runs moves marks after) (closed : server.IsClosed) (id socket : Nat) :
    .assigned id socket ∉ marks := by
  -- At every step the acceptor is where it does not give numbers.
  induction run with
  | refl => exact nofun
  | @tail between after moves marks move run stepped ih =>
    have grows : server.Grows (fun _ => True) between :=
      run.grows (fun _ _ => trivial) fun _ _ _ => trivial
    refine fun member => (List.mem_append.mp member).elim ih fun new => ?_
    rcases grows.closed closed with absent | leaving
    · cases absent.symm.trans (opened_of_assigned new)
    · cases leaving.symm.trans (opened_of_assigned new)

/-- Once the acceptor has left, nothing comes in any more. -/
theorem Runs.fades {server after : Server δ ι} {moves : List Move} {marks : List Mark}
    (run : server.Runs moves marks after) (closed : server.IsClosed) :
    after.registry ⊆ server.registry ∧ after.table ⊆ server.table := by
  -- Nothing comes in late, for nothing comes in.
  have grows := run.grows closed.number (run.closed closed)
  exact ⟨fun id member => (grows.registry id member).elim (fun old => old) False.elim,
    fun id member => (grows.table id member).elim (fun old => old) False.elim⟩

/-- A server from when it is made, started and used, stopped and started again. -/
inductive Lives (net : NetSettings) (hooks : Hooks ι) (site : Site δ) : Server δ ι → Prop
  | made : Lives net hooks site { net, hooks, site }
  | started {before after : Server δ ι} {bound : Bool} (lives : Lives net hooks site before)
      (starts : before.start bound = .ok after) : Lives net hooks site after
  | stepped {before after : Server δ ι} {move : Move} (lives : Lives net hooks site before)
      (steps : before.step move = some after) : Lives net hooks site after

/-- What a server becomes by a run is still the same server. -/
theorem Lives.run {net : NetSettings} {hooks : Hooks ι} {site : Site δ} {before after : Server δ ι}
    {moves : List Move} {marks : List Mark} (lives : Lives net hooks site before)
    (run : before.Runs moves marks after) : Lives net hooks site after := by
  -- A run is one step after the other.
  induction run with
  | refl => exact lives
  | tail _ stepped ih => exact ih.stepped stepped

/-- The acceptor of a server can always be made to leave, or has been asked to already. -/
theorem Lives.hears {net : NetSettings} {hooks : Hooks ι} {site : Site δ} {server : Server δ ι}
    (lives : Lives net hooks site server) : server.Hears := by
  -- It can be asked from its start on, and it can be asked once.
  induction lives with
  | made => exact .inl (.inl (.inl rfl))
  | started _ starts =>
    unfold start at starts
    split at starts
    · cases starts
    split at starts
    · cases starts
    split at starts
    · cases starts
      exact .inr rfl
    · cases starts
  | @stepped before after _ _ steps ih =>
    have grows : before.Grows (fun _ => True) after :=
      step_grows steps (fun _ _ => trivial) fun _ _ _ => trivial
    exact grows.hears ih

/--
Stopping a server gives up every link that has come in before.

A server has been made, started and used, and a stop has not emptied anything yet; from there on
everybody takes their steps in any order, until the stop has succeeded and any time after that. Then
only a link that the acceptor had in hand, or that has got its number in the meantime, can be in the
registry or in the table; a stop that had still to ask the acceptor to leave has done so; both are
empty if the acceptor had left before; and nothing is added to them once it has left.
-/
theorem Lives.stop_closes {net : NetSettings} {hooks : Hooks ι} {site : Site δ}
    {before after : Server δ ι} {moves : List Move} {marks : List Mark} {index : Nat}
    {caller : Caller} (lives : Lives net hooks site before)
    (acts : before.callers[index]? = some caller) (early : caller.isEarly = true)
    (run : before.Runs moves marks after) (succeeded : after.callers[index]? = some .succeeded) :
    (∀ id, id ∈ after.registry ∨ id ∈ after.table →
      before.acceptor.number? = some id ∨ ∃ socket, .assigned id socket ∈ marks) ∧
    (caller ≠ .abort → after.Leaves) ∧
    (before.IsClosed → after.registry = [] ∧ after.table = []) ∧
    (after.IsClosed → ∀ moves marks, ∀ later : Server δ ι, after.Runs moves marks later →
      later.registry ⊆ after.registry ∧ later.table ⊆ after.table) := by
  -- What comes late is in the acceptor's hand, or gets its number on the run.
  let late (id : Nat) : Prop :=
    before.acceptor.number? = some id ∨ ∃ socket, .assigned id socket ∈ marks
  have number id (brings : before.acceptor.number? = some id) : late id := .inl brings
  have assigned id socket (member : .assigned id socket ∈ marks) : late id := .inr ⟨socket, member⟩
  have begins : Stops late (caller ≠ .abort) before caller := by
    cases caller with
    | stop | ask => exact ⟨rfl, nofun, nofun, nofun⟩
    | abort => exact ⟨rfl, fun unasked => absurd rfl unasked, nofun, nofun⟩
    | _ => cases early
  obtain ⟨_, stands, stops⟩ := run.stops number assigned acts begins
  cases stands.symm.trans succeeded
  have remaining id (member : id ∈ after.registry ∨ id ∈ after.table) : late id :=
    member.elim (stops.registry (Nat.le_refl 4) id) (stops.table (by decide) id)
  refine ⟨remaining, fun unasked => ?_, fun closed => ?_, fun closed _ _ _ run => run.fades closed⟩
  · -- Nobody could ask it any more, so somebody has.
    have deaf := stops.deaf unasked (by decide)
    rcases (run.grows number assigned).hears lives.hears with leaves | askable
    · exact leaves
    · exact absurd (deaf.symm.trans askable) Bool.false_ne_true
  · have nobody id : ¬ late id := by
      rintro (brings | ⟨socket, member⟩)
      · exact closed.number id brings
      · exact run.closed closed id socket member
    simp only [List.eq_nil_iff_forall_not_mem]
    exact ⟨fun id member => nobody id (remaining id (.inl member)),
      fun id member => nobody id (remaining id (.inr member))⟩

/--
The link of one socket is in the tables when a stop begins, and another socket is accepted while the
stop shuts down the first one: only the second link is left.
-/
theorem Lives.stop_closes_first :
    let accept (socket : Nat) : List Move := .accept socket true :: List.replicate 4 .advance
    let turns (count : Nat) : List Move := List.replicate count (.attend 0 .pending)
    let moves := turns 6 ++ accept 8 ++ turns 3
    ∃ marks, ∃ before after : Server MemoryDepot Parcel,
      Lives {} .none { depot := {} } before ∧ before.callers[0]? = some .stop ∧
      before.registry = [1] ∧ before.table = [1] ∧
      before.Runs moves marks after ∧ after.callers[0]? = some .succeeded ∧
      after.registry = [2] ∧ after.table = [2] ∧ after.Leaves ∧
      ∃ socket, .assigned 2 socket ∈ marks := by
  -- The first link is in the tables before the stop, the second one comes late.
  intro accept turns moves
  let fresh : Server MemoryDepot Parcel := { net := {}, hooks := .none, site := { depot := {} } }
  let started := { fresh with running := true, askable := true, acceptor := .idle }
  have begins : fresh.start true = .ok started := start_eq rfl (by decide +kernel)
  have first : (started.replay (accept 7 ++ [.call .stop])).any (fun (_, before) =>
      before.callers[0]? = some .stop ∧ before.registry = [1] ∧ before.table = [1] ∧
        before.acceptor = .idle ∧ (before.replay moves).any fun (_, after) =>
          after.callers[0]? = some .succeeded ∧ after.registry = [2] ∧ after.table = [2]) =
            true := by
    decide +kernel
  -- Up to the stop, one link is known, and the acceptor has a second socket at hand.
  obtain ⟨⟨_, before⟩, replayed, reached⟩ := (Option.any_eq_true _ _).mp first
  obtain ⟨acts, registry, table, idle, second⟩ := of_decide_eq_true reached
  obtain ⟨⟨marks, after⟩, onward, reached⟩ := (Option.any_eq_true _ _).mp second
  obtain ⟨succeeded, left, listed⟩ := of_decide_eq_true reached
  have lives : Lives {} .none { depot := {} } before :=
    (Lives.made.started begins).run (Runs.refl.replay replayed)
  have run : before.Runs moves marks after := Runs.refl.replay onward
  -- After that, the theorem says what can be left.
  obtain ⟨remaining, asked, _⟩ := lives.stop_closes acts rfl run succeeded
  have second := remaining 2 (.inl (left ▸ List.mem_singleton_self 2))
  rw [idle] at second
  exact ⟨marks, before, after, lives, acts, registry, table, run, succeeded, left, listed,
    asked nofun, second.resolve_left nofun⟩

/--
A socket is accepted when the acceptor has already been asked to leave: the stop finds nothing to
empty and succeeds, and the acceptor leaves with the link in both tables.
-/
theorem Runs.outruns_stop :
    let turns (count : Nat) : List Move := List.replicate count (.attend 0 .pending)
    let stopping : List Move := .call .stop :: turns 2 ++ .accept 7 true :: turns 3
    ∃ started marks, ∃ after : Server MemoryDepot Parcel,
      Server.start { net := {}, hooks := .none, site := { depot := {} } } true = .ok started ∧
      started.Runs (stopping ++ List.replicate 6 .advance) marks after ∧
      after.callers[0]? = some .succeeded ∧ after.acceptor = .absent ∧ after.running = false ∧
      after.registry = [1] ∧ after.table = [1] := by
  -- The acceptor takes a socket in although it has been asked to leave.
  intro turns stopping
  let fresh : Server MemoryDepot Parcel := { net := {}, hooks := .none, site := { depot := {} } }
  let started := { fresh with running := true, askable := true, acceptor := .idle }
  have begins : fresh.start true = .ok started := start_eq rfl (by decide +kernel)
  have replayed : (started.replay (stopping ++ List.replicate 6 .advance)).any (fun (_, after) =>
      after.callers[0]? = some .succeeded ∧ after.acceptor = .absent ∧ after.running = false ∧
        after.registry = [1] ∧ after.table = [1]) = true := by
    decide +kernel
  obtain ⟨⟨marks, after⟩, replayed, reached⟩ := (Option.any_eq_true _ _).mp replayed
  exact ⟨started, marks, after, begins, Runs.refl.replay replayed, of_decide_eq_true reached⟩

end Server

end SentinelRounds
