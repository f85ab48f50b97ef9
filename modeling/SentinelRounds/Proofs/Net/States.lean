import SentinelRounds.Depot.Memory
import SentinelRounds.Net.Duplex
import SentinelRounds.Net.Plan

/-! What the state of a link tells while calls, rounds and its shutting down go on beside each other. -/

namespace SentinelRounds

variable {δ ι : Type}

/-- Somebody who uses a link. -/
inductive User
  /-- Works off some tasks. -/
  | plan (plan : Plan)
  /-- Shuts the link down. -/
  | shutdown (shutdown : Shutdown)
  deriving DecidableEq, Repr

/-- A link and everybody who uses it. -/
structure Usage (δ ι : Type) where
  link : Link ι
  site : Site δ
  users : List User

namespace User

/-- What the next step of a user notes in the state of the link. -/
def note? : User → Option LinkState
  | .plan (.begin :: _) => some .headerExchange
  | .plan (.call (.enter _ phase) :: _) => some (.ofPhase phase)
  | .plan (.call (.close _) :: _) => some .closing
  | .shutdown .announce => some .closing
  | .shutdown .close => some .closed
  | _ => none

/-- Whether the next step of a user begins a round or starts a phase. -/
def opens : User → Bool
  | .plan (.begin :: _) | .plan (.call (.enter _ _) :: _) => true
  | _ => false

/-- Whether the next step of a user settles a call that has failed, or begins to shut the link down. -/
def closes : User → Bool
  | .plan (.call (.close _) :: _) | .shutdown .announce => true
  | _ => false

/-- Whoever opens nothing notes only that the link is on its way out. -/
theorem isOver_of_note {user : User} {state : LinkState} (noted : user.note? = some state)
    (unopened : user.opens = false) : state.isOver = true := by
  -- What is noted depends on the user's next step.
  unfold note? at noted
  split at noted <;> cases noted
  · cases unopened
  · cases unopened
  all_goals rfl

/-- Whoever neither opens nor closes anything notes only that the link is closed. -/
theorem closed_of_note {user : User} {state : LinkState} (noted : user.note? = some state)
    (unopened : user.opens = false) (unclosed : user.closes = false) : state = .closed := by
  -- What is noted depends on the user's next step.
  unfold note? at noted
  split at noted <;> cases noted
  · cases unopened
  · cases unopened
  · cases unclosed
  · cases unclosed
  · rfl

end User

/-- A link that has been used is the same link still, in the state that was noted or in the old one. -/
structure Link.Notes (note : Option LinkState) (before after : Link ι) : Prop where
  id : after.id = before.id
  socket : after.socket = before.socket
  state : after.state = note.getD before.state

namespace Call

/-- Looking for a frame notes nothing. -/
theorem notes_look (phase : Phase) (arrived : Bytes) (link : Link ι) :
    link.Notes none (look phase arrived link).2 := by
  -- Whatever is found, the intake is all that changes.
  unfold look
  simp only
  split <;> exact ⟨rfl, rfl, rfl⟩

/-- Nor does what has arrived. -/
theorem notes_arrive {phase : Phase} {reply : Reply} {link : Link ι} {moved : Call × Link ι}
    (arrived : arrive phase reply link = some moved) : link.Notes none moved.2 := by
  -- Whatever the reply, the state of the link stays.
  unfold arrive at arrived
  split at arrived <;> cases arrived <;> exact ⟨rfl, rfl, rfl⟩

/-- Nor does what has been written. -/
theorem notes_settle {phase : Phase} {bytes : Bytes} {reply : Reply} {link : Link ι}
    {moved : Call × Link ι} (settled : settle phase bytes reply link = some moved) :
    link.Notes none moved.2 := by
  -- Whatever the reply, only the counts of the link change.
  unfold settle at settled
  split at settled
  · cases phase <;> cases settled <;> exact ⟨rfl, rfl, rfl⟩
  · cases settled
    exact ⟨rfl, rfl, rfl⟩
  · cases settled
  · cases settled
  · cases settled

/-- Nor does a frame that is made. -/
theorem notes_prepare [Transferable ι] [Depot δ ι] (phase : Phase) (link : Link ι) (site : Site δ) :
    link.Notes none (prepare phase link site).2.1 := by
  -- The round is all that changes, if there is a frame to make.
  unfold prepare
  split
  · exact ⟨rfl, rfl, rfl⟩
  · simp only
    split <;> exact ⟨rfl, rfl, rfl⟩

variable [Transferable ι] [Reversible ι] [Depot δ ι]

/-- Nor does a frame that is handed to the round. -/
theorem notes_take (hooks : Hooks ι) (phase : Phase) (inbound : Round.Inbound) (link : Link ι)
    (site : Site δ) : link.Notes none (take hooks phase inbound link site).2.1 := by
  -- The round and the counts are all that changes.
  unfold take
  simp only
  split
  · exact ⟨rfl, rfl, rfl⟩
  · cases phase <;> exact ⟨rfl, rfl, rfl⟩

/-- A step of a call notes what its user does. -/
theorem notes_step {hooks : Hooks ι} {reply : Reply} {call onward : Call} {link after : Link ι}
    {site left : Site δ} {rest : Plan}
    (stepped : call.step hooks reply link site = some (onward, after, left)) :
    link.Notes (User.plan (.call call :: rest)).note? after := by
  -- The cases are the places at which a call can be.
  cases call with
  | search phase arrived =>
    -- Looking for a frame is told by what has been found so far.
    cases stepped
    exact notes_look ..
  | await phase spare =>
    obtain ⟨moved, arrived, same⟩ := Option.map_eq_some_iff.mp stepped
    cases same
    exact notes_arrive arrived
  | write phase bytes =>
    -- Each of these goes by the lemma for its own step.
    obtain ⟨moved, settled, same⟩ := Option.map_eq_some_iff.mp stepped
    cases same
    exact notes_settle settled
  | absorb phase inbound =>
    have notes := notes_take hooks phase inbound link site
    rw [Option.some.inj stepped] at notes
    exact notes
  | compose phase =>
    have notes := notes_prepare phase link site
    rw [Option.some.inj stepped] at notes
    exact notes
  | conclude transit phase =>
    -- Nothing is noted when a frame is done.
    cases transit <;> cases phase <;> cases stepped <;> exact ⟨rfl, rfl, rfl⟩
  | next | choose | enter | signal | halt | close | release =>
    cases stepped
    exact ⟨rfl, rfl, rfl⟩
  | succeeded | failed => cases stepped

end Call

/-- A step of a plan notes what its user does. -/
theorem Plan.notes_step [Transferable ι] [Reversible ι] [Depot δ ι] {hooks : Hooks ι}
    {registered : Bool} {reply : Reply} {plan : Plan} {progress : Progress} {link after : Link ι}
    {site left : Site δ}
    (stepped : plan.step hooks registered reply link site = some (progress, after, left)) :
    link.Notes (User.plan plan).note? after := by
  -- The cases are the tasks that a plan may begin with.
  cases plan with
  | nil => cases stepped
  | cons task rest =>
    cases task with
    | await signal =>
      simp only [step] at stepped
      split at stepped <;> cases stepped
      exact ⟨rfl, rfl, rfl⟩
    | call call =>
      obtain ⟨⟨onward, other, store⟩, moved, same⟩ := Option.map_eq_some_iff.mp stepped
      cases same
      exact Call.notes_step moved
    | reset | begin | ifDue | find =>
      cases stepped
      exact ⟨rfl, rfl, rfl⟩

/-- A step of shutting a link down notes what its user does. -/
theorem Shutdown.notes_step (shutdown : Shutdown) (link : Link ι) :
    link.Notes (User.shutdown shutdown).note? (shutdown.step link).2 := by
  cases shutdown <;> exact ⟨rfl, rfl, rfl⟩

namespace Usage

variable [Transferable ι] [Reversible ι] [Depot δ ι]

/--
One step of one of the users, given whether the link is registered and what the socket answers;
nothing if that user has to wait, or is done.
-/
def step (hooks : Hooks ι) (usage : Usage δ ι) (index : Nat) (registered : Bool) (reply : Reply) :
    Option (Usage δ ι) := do
  match ← usage.users[index]? with
  | .plan plan =>
    let (progress, link, site) ← plan.step hooks registered reply usage.link usage.site
    -- A user whose call has failed gives the rest of its plan up.
    let left := match progress with
      | .going plan => plan
      | .failed _ | .lost => []
    some { link, site, users := usage.users.set index (.plan left) }
  | .shutdown shutdown =>
    let (shutdown, link) := shutdown.step usage.link
    some { usage with link, users := usage.users.set index (.shutdown shutdown) }

/-- A run of the users in any order, with each of them as it stood before its step. -/
inductive Runs (hooks : Hooks ι) (usage : Usage δ ι) : List User → Usage δ ι → Prop
  | refl : Runs hooks usage [] usage
  | tail {done : List User} {between after : Usage δ ι} {index : Nat} {user : User}
      {registered : Bool} {reply : Reply} (run : Runs hooks usage done between)
      (acts : between.users[index]? = some user)
      (stepped : between.step hooks index registered reply = some after) :
    Runs hooks usage (done ++ [user]) after

/-- A step leaves the link in the state that the user notes, or in the old one. -/
theorem state_step {hooks : Hooks ι} {usage after : Usage δ ι} {index : Nat} {user : User}
    {registered : Bool} {reply : Reply} (acts : usage.users[index]? = some user)
    (stepped : usage.step hooks index registered reply = some after) :
    after.link.state = user.note?.getD usage.link.state := by
  -- The step is one of the user whose turn it is.
  simp only [step, acts, Option.bind_eq_bind, Option.bind_some] at stepped
  cases user with
  | plan plan =>
    obtain ⟨⟨progress, link, site⟩, moved, same⟩ := Option.bind_eq_some_iff.mp stepped
    cases same
    exact (Plan.notes_step moved).state
  | shutdown shutdown =>
    cases stepped
    exact (shutdown.notes_step usage.link).state

/-- After a run the link is in the state that was noted last. -/
theorem Runs.state {hooks : Hooks ι} {usage after : Usage δ ι} {users : List User}
    (run : usage.Runs hooks users after) :
    after.link.state = (users.filterMap User.note?).getLast?.getD usage.link.state := by
  -- The run is followed from its first state.
  induction run with
  | refl => rfl
  | tail _ acts stepped ih =>
    rw [state_step acts stepped, ih, List.filterMap_append]
    cases noted : User.note? _ <;> simp [noted]

/-- What is not the old state has been noted by one of the users. -/
theorem Runs.noted {hooks : Hooks ι} {usage after : Usage δ ι} {users : List User}
    (run : usage.Runs hooks users after) : after.link.state = usage.link.state ∨
      ∃ user ∈ users, user.note? = some after.link.state := by
  -- The last note is the state that the link is left in.
  rw [run.state]
  cases last : (users.filterMap User.note?).getLast? with
  | none => exact .inl rfl
  | some state => exact .inr (List.mem_filterMap.mp (List.mem_of_getLast? last))

/--
A link that is on its way out does not come back by itself.

However the calls, the rounds and the shutting down of a link interleave, and whatever arrives or
fails: once the link is closing or closed it stays so, and does not count as connected, as long as no
round begins and no phase starts; and once it is closed it stays closed, as long as no failed call is
settled and no other shutting down begins either.
-/
theorem Runs.stays_over {hooks : Hooks ι} {usage after : Usage δ ι} {users : List User}
    (run : usage.Runs hooks users after) (ended : usage.link.state.isOver = true)
    (unopened : ∀ user ∈ users, user.opens = false) :
    after.link.state.isOver = true ∧ (∀ pair, after.link.isConnected pair = false) ∧
      (usage.link.state = .closed → (∀ user ∈ users, user.closes = false) →
        after.link.state = .closed) := by
  -- Nobody notes that the link is open, so it stays on its way out.
  have still : after.link.state.isOver = true := by
    -- The state is the one before, or the last one that a user has noted.
    rcases run.noted with same | ⟨user, member, noted⟩
    · rw [same]
      exact ended
    · exact User.isOver_of_note noted (unopened user member)
  refine ⟨still, fun pair => ?_, fun closed unclosed => ?_⟩
  · rw [Link.isConnected, still]
    rfl
  · -- No user notes anything but the end of the link.
    rcases run.noted with same | ⟨user, member, noted⟩
    · rw [same, closed]
    · exact User.closed_of_note noted (unopened user member) (unclosed user member)

/-- The run in which some users take their steps one after the other, each with a reply. -/
def follow (hooks : Hooks ι) : List (Nat × Reply) → Usage δ ι → Option (List User × Usage δ ι)
  | [], usage => some ([], usage)
  | (index, reply) :: cues, usage => do
    let user ← usage.users[index]?
    let between ← usage.step hooks index true reply
    let (users, after) ← follow hooks cues between
    some (user :: users, after)

/-- Following cues makes a run longer. -/
theorem Runs.follow {hooks : Hooks ι} {cues : List (Nat × Reply)} {usage between after : Usage δ ι}
    {done users : List User} (run : usage.Runs hooks done between)
    (followed : Usage.follow hooks cues between = some (users, after)) :
    usage.Runs hooks (done ++ users) after := by
  -- The first cue makes the first step.
  induction cues generalizing between done users with
  | nil =>
    cases followed
    rw [List.append_nil]
    exact run
  | cons cue cues ih =>
    simp only [Usage.follow, Option.bind_eq_bind, Option.bind_eq_some_iff] at followed
    obtain ⟨user, acts, next, stepped, ⟨others, last⟩, rest, same⟩ := followed
    cases same
    have longer := ih (run.tail acts stepped) rest
    rw [List.append_assoc] at longer
    exact longer

/-- Whether some cues can be followed, and a test holds of the users and of where that leads. -/
def plays (hooks : Hooks ι) (usage : Usage δ ι) (cues : List (Nat × Reply))
    (test : List User → Usage δ ι → Bool) : Bool :=
  (follow hooks cues usage).any fun (users, after) => test users after

/-- Cues that can be followed make a run, and the test holds at its end. -/
theorem runs_of_plays {hooks : Hooks ι} {usage : Usage δ ι} {cues : List (Nat × Reply)}
    {test : List User → Usage δ ι → Bool} (played : usage.plays hooks cues test = true) :
    ∃ users after, usage.Runs hooks users after ∧ test users after = true := by
  -- The test has followed all the cues.
  obtain ⟨⟨users, after⟩, followed, holds⟩ := (Option.any_eq_true _ _).mp played
  exact ⟨users, after, Runs.follow .refl followed, holds⟩

/-- A closed link on which a phase comes to its end, and then its shutting down. -/
theorem stays_over_concluding :
    let link : Link Parcel := { Link.opened 1 .server 1 { id := "s" } {} with state := .closed }
    let usage : Usage MemoryDepot Parcel :=
      { link, site := { depot := {} }
        users := [.shutdown .release, .plan [.call (.conclude .receive .header)]] }
    ∃ users after, usage.Runs .none users after ∧ users.length = 3 ∧
      after.users = [.shutdown .done, .plan []] ∧ after.link.state = .closed ∧
      after.link.isConnected {} = false := by
  -- The call and the shutting down take turns.
  intro link usage
  have played : usage.plays .none [(1, .pending), (0, .pending), (1, .pending)]
      (fun users after => users.length = 3 ∧ after.users = [.shutdown .done, .plan []] ∧
        (∀ user ∈ users, user.opens = false) ∧ ∀ user ∈ users, user.closes = false) = true := by
    decide +kernel
  obtain ⟨users, after, run, reached⟩ := runs_of_plays played
  obtain ⟨length, done, unopened, unclosed⟩ := of_decide_eq_true reached
  obtain ⟨_, apart, closed⟩ := run.stays_over rfl unopened
  exact ⟨users, after, run, length, done, closed rfl unclosed, apart {}⟩

/--
A link that is shut down while a call waits for bytes: the link is closed, is closing again once the
call has failed, and counts as connected again once a round begins.
-/
theorem reopens :
    let usage : Usage MemoryDepot Parcel :=
      { link := .opened 1 .server 1 { id := "s" } {}, site := { depot := {} }
        users := [.shutdown .announce, .plan [.find .receive], .plan [.reset, .begin]] }
    ∃ first closed second closing third after,
      usage.Runs .none first closed ∧ closed.link.state = .closed ∧
      closed.Runs .none second closing ∧ closing.link.state = .closing ∧
      closing.Runs .none third after ∧ after.link.state = .headerExchange ∧
      after.link.isConnected {} = true := by
  -- The call waits first, then the link is shut down, and then the call fails.
  intro usage
  let waits : List (Nat × Reply) := List.replicate 4 (1, .pending) ++ List.replicate 3 (0, .pending)
  let fails : List (Nat × Reply) := [(1, .ended), (1, .pending), (1, .pending)]
  let begins : List (Nat × Reply) := [(2, .pending), (2, .pending)]
  have played : usage.plays .none waits (fun _ closed => closed.link.state = .closed ∧
      closed.plays .none fails (fun _ closing => closing.link.state = .closing ∧
        closing.plays .none begins (fun _ after => after.link.state = .headerExchange ∧
          after.link.isConnected {} = true) = true) = true) = true := by
    decide +kernel
  -- Each of the three runs is taken out of the evaluation in turn.
  obtain ⟨first, closed, shut, reached⟩ := runs_of_plays played
  obtain ⟨ended, played⟩ := of_decide_eq_true reached
  obtain ⟨second, closing, failed, reached⟩ := runs_of_plays played
  obtain ⟨late, played⟩ := of_decide_eq_true reached
  obtain ⟨third, after, begun, reached⟩ := runs_of_plays played
  obtain ⟨back, connected⟩ := of_decide_eq_true reached
  exact ⟨first, closed, second, closing, third, after, shut, ended, failed, late, begun, back,
    connected⟩

end Usage

end SentinelRounds
