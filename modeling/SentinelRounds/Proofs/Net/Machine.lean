import SentinelRounds.Net.Loopback
import SentinelRounds.Proofs.Net.Standing

/-! The clients of a machine live as clients do: each answers as the sockets of the machine let it. -/

namespace SentinelRounds

namespace Keyed

variable {κ α : Type} [DecidableEq κ]

/-- A map holds a value under a key, and under the others what another map holds. -/
structure Replaces (after before : Keyed κ α) (key : κ) (value : α) : Prop where
  -- Maps are compared by what is found in them, not by the order of their entries.
  get?_eq : ∀ other, after.get? other = if other = key then some value else before.get? other

/-- A value that is inserted takes the place of what was there. -/
theorem replaces_insert [LT κ] [DecidableLT κ] (map : Keyed κ α) (key : κ) (value : α) :
    (map.insert key value).Replaces map key value :=
  ⟨fun other => get?_insert map key other value⟩

namespace Replaces

variable {before between after : Keyed κ α} {key : κ} {first value : α}

/-- The value is found under its key. -/
theorem found (replaces : after.Replaces before key value) : after.get? key = some value := by
  -- The key is the one that differs.
  rw [replaces.get?_eq, if_pos rfl]

/-- Of two values that take the same place, the later one stays. -/
theorem trans (replaces : after.Replaces between key value)
    (early : between.Replaces before key first) : after.Replaces before key value := by
  -- Under the other keys both maps hold what the first one held.
  refine ⟨fun other => ?_⟩
  rw [replaces.get?_eq, early.get?_eq]
  split <;> rfl

/-- What holds of the new value and of all the old ones holds of all that are left. -/
theorem holds {P : α → Prop} (replaces : after.Replaces before key value) (fresh : P value)
    (old : ∀ other kept, before.get? other = some kept → P kept) (other : κ) (kept : α)
    (found : after.get? other = some kept) : P kept := by
  -- A value is either the new one or has been there before.
  rw [replaces.get?_eq] at found
  split at found
  · exact Option.some.inj found ▸ fresh
  · exact old other kept found

end Replaces

end Keyed

namespace Loopback

variable {δ ι : Type}

/-- A client that is put back takes the place of the one that was taken. -/
theorem replaces_setClient (machine : Loopback δ ι) (index : Nat) (client : Client δ ι) :
    (machine.setClient index client).clients.Replaces machine.clients index client :=
  Keyed.replaces_insert ..

/-- A socket that is opened leaves the clients alone. -/
theorem clients_opening (machine : Loopback δ ι) (net : NetSettings) :
    (machine.opening net).2.clients = machine.clients := by
  -- Whether the host is known and listened on, only sockets are added.
  unfold opening
  split
  · rfl
  · split <;> rfl

/-- Sockets that are taken away leave them alone too. -/
theorem clients_reap (machine : Loopback δ ι) : machine.reap.clients = machine.clients := by
  -- The links are gone through one by one.
  unfold reap
  generalize machine.server.links.entries = entries
  induction entries generalizing machine with
  | nil => rfl
  | cons entry entries ih =>
    obtain ⟨id, link⟩ := entry
    rw [List.foldl_cons, ih]
    dsimp only
    split <;> rfl

/-- The start of the server leaves them alone. -/
theorem clients_start (machine : Loopback δ ι) : machine.start.2.clients = machine.clients := by
  -- A start that fails changes nothing at all.
  unfold start
  split <;> rfl

section

variable [Transferable ι] [Reversible ι] [Depot δ ι]

/-- A step that uses a socket leaves the clients alone. -/
theorem clients_use {machine after : Loopback δ ι} {id : Nat} {demand : Demand}
    {move : Reply → Move} (used : machine.use id demand move = some after) :
    after.clients = machine.clients := by
  -- Only the server and its sockets change, whether or not the link is still there.
  unfold use at used
  split at used
  all_goals
    obtain ⟨_, _, rfl⟩ := Option.map_eq_some_iff.mp used
    rfl

/-- So does a step of the acceptor. -/
theorem clients_accept {machine after : Loopback δ ι} (accepted : machine.accept = some after) :
    after.clients = machine.clients := by
  -- Without a socket to take in the acceptor goes on by itself.
  have advanced (stepped : ((machine.server.step .advance).map fun server =>
      { machine with server }) = some after) : after.clients = machine.clients := by
    obtain ⟨_, _, rfl⟩ := Option.map_eq_some_iff.mp stepped
    rfl
  unfold accept at accepted
  split at accepted
  · split at accepted
    · cases accepted
      rfl
    · exact advanced accepted
  · exact advanced accepted

/-- So does a step of a service. -/
theorem clients_serve {machine after : Loopback δ ι} {id : Nat}
    (served : machine.serve id = some after) : after.clients = machine.clients := by
  -- Either half moves by using the socket of its link.
  simp only [serve, Option.bind_eq_bind, Option.bind_eq_some_iff] at served
  obtain ⟨service, _, served⟩ := served
  rcases Option.or_eq_some_iff.mp served with first | ⟨_, second⟩
  · exact clients_use first
  · exact clients_use second

/-- So does any step of the server. -/
theorem clients_tick {machine after : Loopback δ ι} (ticked : machine.tick = some after) :
    after.clients = machine.clients := by
  -- A tick ends an aborted service, moves the acceptor or moves a service.
  unfold tick at ticked
  obtain ⟨between, moved, rfl⟩ := Option.map_eq_some_iff.mp ticked
  rw [clients_reap]
  rcases Option.or_eq_some_iff.mp moved with dropped | ⟨_, moved⟩
  · obtain ⟨id, _, dropped⟩ := List.exists_of_findSome?_eq_some dropped
    obtain ⟨_, _, rfl⟩ := Option.map_eq_some_iff.mp dropped
    rfl
  · rcases Option.or_eq_some_iff.mp moved with accepted | ⟨_, served⟩
    · exact clients_accept accepted
    · obtain ⟨id, _, served⟩ := List.exists_of_findSome?_eq_some served
      exact clients_serve served

/-- Whatever goes on in the server leaves the clients alone. -/
@[simp] theorem clients_settle (machine : Loopback δ ι) (fuel : Nat) :
    (machine.settle fuel).clients = machine.clients := by
  -- The server goes on for as many ticks as there is fuel.
  induction fuel generalizing machine with
  | zero => rfl
  | succ fuel ih =>
    unfold settle
    split
    case h_1 next ticked => rw [ih, clients_tick ticked]
    case h_2 => rfl

/-- A call on the server from outside leaves them alone while it runs. -/
theorem clients_attend (machine : Loopback δ ι) (index fuel : Nat) :
    (machine.attend index fuel).2.clients = machine.clients := by
  -- Each unit of fuel is one step of the caller, with a socket or without.
  induction fuel generalizing machine with
  | zero => rfl
  | succ fuel ih =>
    unfold attend
    split
    case h_1 => rfl
    case h_2 caller _ =>
      dsimp only
      split
      case h_1 next moved =>
        rw [ih]
        split at moved
        · exact clients_use moved
        · obtain ⟨_, _, rfl⟩ := Option.map_eq_some_iff.mp moved
          rfl
      case h_2 => rfl

/-- So it does from its beginning to its end. -/
theorem clients_call (machine : Loopback δ ι) (caller : Caller) :
    (machine.call caller).2.clients = machine.clients := by
  -- The caller is added, attended to, and the others go on.
  simp only [call, clients_settle, clients_attend]

/-- So does an exchange over a socket that belongs to none of them. -/
theorem clients_exchange (machine : Loopback δ ι) (parts : List Bytes) :
    (machine.exchange parts).2.clients = machine.clients := by
  -- Without a server there is nobody to exchange anything with.
  unfold exchange
  split
  · rfl
  · split
    · rfl
    · dsimp only
      rw [clients_settle]
      exact clients_settle ..

/-- A client has given an answer, and the machine has it as the answer has left it. -/
def Keeps (machine after : Loopback δ ι) (index : Nat) (client : Client δ ι) (answer : Answer) :
    Prop :=
  -- The other clients are those of before.
  ∃ last, client.Answers answer last ∧ after.clients.Replaces machine.clients index last

/-- A plan that is worked off on the machine is worked off with what the sockets answer. -/
theorem follow_eq {machine after : Loopback δ ι} {index : Nat} {client : Client δ ι} {link : Link ι}
    {fuel : Nat} {idle : Bool} {plan : Plan} {result : Except ClientFault Unit}
    (followed : machine.follow index client link fuel idle plan = some (result, after)) :
    ∃ replies last, client.follow replies plan = some (result, last) ∧
      after.clients.Replaces machine.clients index last := by
  -- The socket is asked once for each unit of fuel, whether or not the plan has to wait.
  induction fuel generalizing machine client idle plan with
  | zero => cases followed
  | succ fuel ih =>
    cases plan with
    | nil =>
      cases followed
      exact ⟨[], client, rfl, replaces_setClient ..⟩
    | cons task plan =>
      simp only [follow] at followed
      generalize (machine.socket link.socket).answer .client (Plan.demand (task :: plan)) = answered
        at followed
      obtain ⟨reply, pair⟩ := answered
      -- What the socket answers first stands in front of what it answers later on.
      split at followed
      case h_1 progress next stepped =>
        cases progress with
        | going onward =>
          obtain ⟨replies, last, followed, replaces⟩ := ih followed
          exact ⟨reply :: replies, last, by simp only [Client.follow, stepped, followed], replaces⟩
        | failed fault =>
          cases followed
          exact ⟨[reply], next, by simp only [Client.follow, stepped], replaces_setClient ..⟩
        | lost =>
          cases followed
          exact ⟨[reply], next, by simp only [Client.follow, stepped], replaces_setClient ..⟩
      case h_2 waits =>
        split at followed
        · cases followed
        · obtain ⟨replies, last, followed, replaces⟩ := ih followed
          rw [clients_settle] at replaces
          exact ⟨reply :: replies, last, by simp only [Client.follow, waits, followed], replaces⟩

/-- A connect on the machine is one of its client. -/
theorem keeps_connect {machine after : Loopback δ ι} {index : Nat} {client : Client δ ι}
    {result : Except ClientFault Unit} (called : machine.connect index client = (result, after)) :
    ∃ opening, machine.Keeps after index client (.connect opening, result) := by
  -- The client is asked whether it may connect before any socket is opened.
  unfold connect at called
  split at called
  case h_1 fault busy =>
    -- Nothing is tried, so it does not matter what would have come of it.
    have failed : client.connect .refused = (.error fault, client) := by rw [Client.connect, busy]
    have answered : client.Answers _ _ := .connect .refused
    rw [failed] at answered
    cases called
    exact ⟨.refused, client, answered, replaces_setClient ..⟩
  case h_2 =>
    have opened := machine.clients_opening client.net
    generalize machine.opening client.net = dialled at called opened
    obtain ⟨opening, between⟩ := dialled
    simp only [Prod.mk.injEq] at called
    obtain ⟨rfl, rfl⟩ := called
    refine ⟨opening, _, .connect opening, ?_⟩
    rw [clients_settle, ← opened]
    exact replaces_setClient ..

/-- A client whose link the machine has given up is found closed. -/
theorem replaces_close (machine : Loopback δ ι) (index : Nat) (client : Client δ ι) :
    (machine.close index client).2.clients.Replaces machine.clients index client.close.2 := by
  -- The socket is left only if there has been a link.
  simp only [close, clients_settle]
  split <;> exact replaces_setClient ..

/-- A close on the machine is one of its client. -/
theorem keeps_close (machine : Loopback δ ι) (index : Nat) (client : Client δ ι) :
    machine.Keeps (machine.close index client).2 index client (.close, .ok ()) :=
  ⟨client.close.2, .close, replaces_close ..⟩

/-- A plan of a request is worked off on the machine as the client works it off. -/
theorem perform_eq {machine after : Loopback δ ι} {index : Nat} {client : Client δ ι} {plan : Plan}
    {result : Except ClientFault Unit}
    (called : machine.perform index client plan = some (result, after)) :
    ∃ last, after.clients.Replaces machine.clients index last ∧
      ((∃ fault, client.connection = .error fault ∧ result = .error fault ∧ last = client) ∨
        ∃ replies, client.follow replies plan = some (result, last)) := by
  -- Without a link nothing is tried.
  unfold perform at called
  split at called
  case h_1 fault unlinked =>
    cases called
    exact ⟨client, replaces_setClient .., .inl ⟨fault, unlinked, rfl, rfl⟩⟩
  case h_2 =>
    obtain ⟨⟨ended, between⟩, followed, same⟩ := Option.map_eq_some_iff.mp called
    cases same
    obtain ⟨replies, last, followed, replaces⟩ := follow_eq followed
    exact ⟨last, by rwa [clients_settle], .inr ⟨replies, followed⟩⟩

/-- A request for a single phase is answered on the machine as the client answers it. -/
theorem keeps_perform {machine after : Loopback δ ι} {index : Nat} {client : Client δ ι}
    {request : Request} {plan : Plan} {result : Except ClientFault Unit}
    (uses : request.plan? = some plan) (single : request ≠ .round)
    (called : machine.perform index client plan = some (result, after)) :
    machine.Keeps after index client (request, result) := by
  -- Either there has been no link, or the plan has been worked off on it.
  obtain ⟨last, replaces, ⟨fault, unlinked, rfl, rfl⟩ | ⟨replies, followed⟩⟩ := perform_eq called
  · exact ⟨last, .refuse uses unlinked, replaces⟩
  · exact ⟨last, .perform uses followed fun whole => absurd whole single, replaces⟩

/-- A round on the machine is one of its client. -/
theorem keeps_round {machine after : Loopback δ ι} {index : Nat} {client : Client δ ι}
    {ended : Except ClientFault (Option (Link ι))}
    (called : machine.round index client = some (ended, after)) :
    machine.Keeps after index client (.round, ended.map fun _ => ()) := by
  -- The client is looked up again once its plan has been worked off.
  simp only [round, Option.bind_eq_bind, Option.bind_eq_some_iff] at called
  obtain ⟨⟨result, between⟩, performed, last, found, called⟩ := called
  obtain ⟨other, replaces, ways⟩ := perform_eq performed
  cases found.symm.trans replaces.found
  -- Only a round that has come to its end is asked whether it has been the last one.
  cases result with
  | error fault =>
    cases called
    rcases ways with ⟨_, unlinked, same, rfl⟩ | ⟨replies, followed⟩
    · cases same
      exact ⟨last, .refuse rfl unlinked, replaces⟩
    · exact ⟨last, .perform rfl followed fun _ => nofun, replaces⟩
  | ok =>
    obtain ⟨_, _, same, _⟩ | ⟨replies, followed⟩ := ways
    · cases same
    simp only at called
    split at called
    case isTrue closing =>
      cases called
      exact ⟨last.close.2, .leave followed closing, (replaces_close ..).trans replaces⟩
    case isFalse stays =>
      cases called
      exact ⟨last, .perform rfl followed fun _ _ => Bool.eq_false_iff.mpr stays, replaces⟩

/-- A machine from when it is set up, with all that is asked of its clients and its server. -/
inductive Runs : Loopback δ ι → Prop
  | made (server : Server δ ι) : Runs { server }
  /-- Another server takes the place of the one before, and the clients stay. -/
  | installed {machine : Loopback δ ι} (runs : Runs machine) (server : Server δ ι) :
    Runs { machine with server }
  | started {machine : Loopback δ ι} (runs : Runs machine) : Runs machine.start.2
  | called {machine : Loopback δ ι} (runs : Runs machine) (caller : Caller) :
    Runs (machine.call caller).2
  | exchanged {machine : Loopback δ ι} (runs : Runs machine) (parts : List Bytes) :
    Runs (machine.exchange parts).2
  /-- A client is made, in place of any other of its number. -/
  | joined {machine : Loopback δ ι} (runs : Runs machine) (index : Nat) (net : NetSettings)
      (hooks : Hooks ι) (site : Site δ) : Runs (machine.setClient index { net, hooks, site })
  | acted {machine : Loopback δ ι} {index : Nat} {client : Client δ ι} (runs : Runs machine)
      (found : machine.clients.get? index = some client) (actions : List (Action ι)) :
    Runs (machine.setClient index (client.act actions))
  | connected {machine after : Loopback δ ι} {index : Nat} {client : Client δ ι}
      {result : Except ClientFault Unit} (runs : Runs machine)
      (found : machine.clients.get? index = some client)
      (ended : machine.connect index client = (result, after)) : Runs after
  | performed {machine after : Loopback δ ι} {index : Nat} {client : Client δ ι}
      {request : Request} {plan : Plan} {result : Except ClientFault Unit} (runs : Runs machine)
      (found : machine.clients.get? index = some client) (uses : request.plan? = some plan)
      (single : request ≠ .round)
      (ended : machine.perform index client plan = some (result, after)) : Runs after
  | rounded {machine after : Loopback δ ι} {index : Nat} {client : Client δ ι}
      {result : Except ClientFault (Option (Link ι))} (runs : Runs machine)
      (found : machine.clients.get? index = some client)
      (ended : machine.round index client = some (result, after)) : Runs after
  | closed {machine : Loopback δ ι} {index : Nat} {client : Client δ ι} (runs : Runs machine)
      (found : machine.clients.get? index = some client) : Runs (machine.close index client).2

/-- Whether a client has come about by being made, asked for this and that, and acted on. -/
def IsAlive (client : Client δ ι) : Prop :=
  ∃ net hooks site answers, Client.Lives net hooks site answers client

/-- A client that has given one more answer is alive if it was before. -/
theorem Keeps.isAlive {machine after : Loopback δ ι} {index : Nat} {client : Client δ ι}
    {answer : Answer} (keeps : machine.Keeps after index client answer)
    (found : machine.clients.get? index = some client)
    (alive : ∀ other kept, machine.clients.get? other = some kept → IsAlive kept) (other : Nat)
    (kept : Client δ ι) (last : after.clients.get? other = some kept) : IsAlive kept := by
  -- The answer is added to those that the client has given so far.
  obtain ⟨fresh, answered, replaces⟩ := keeps
  obtain ⟨net, hooks, site, answers, lives⟩ := alive index client found
  exact replaces.holds ⟨net, hooks, site, _, lives.asked answered⟩ alive other kept last

/--
Whatever is asked of a machine, each of its clients has lived as clients do: all that it has
answered comes from calls of its own, with what the sockets have answered it.
-/
theorem Runs.isAlive {machine : Loopback δ ι} (runs : machine.Runs) :
    ∀ index client, machine.clients.get? index = some client → IsAlive client := by
  -- Calls on the server leave the clients alone, and the others concern one client each.
  induction runs with
  | made =>
    -- A new machine has no clients.
    intro index client found
    cases (found : none = some client)
  | installed _ _ ih => exact ih
  | started _ ih => rwa [clients_start]
  | called _ caller ih => rwa [clients_call]
  | exchanged _ parts ih => rwa [clients_exchange]
  | joined _ index net hooks site ih =>
    -- A client that joins has done nothing yet.
    exact (replaces_setClient ..).holds ⟨net, hooks, site, [], .made⟩ ih
  | @acted machine index client _ found actions ih =>
    obtain ⟨net, hooks, site, answers, lives⟩ := ih index client found
    exact (replaces_setClient ..).holds ⟨net, hooks, site, answers, lives.acted actions⟩ ih
  | connected _ found ended ih =>
    -- The calls that take a client further are executed to their end.
    obtain ⟨_, keeps⟩ := keeps_connect ended
    exact keeps.isAlive found ih
  | performed _ found uses single ended ih =>
    exact (keeps_perform uses single ended).isAlive found ih
  | rounded _ found ended ih => exact (keeps_round ended).isAlive found ih
  | closed _ found ih => exact (keeps_close ..).isAlive found ih

end

end Loopback

end SentinelRounds
