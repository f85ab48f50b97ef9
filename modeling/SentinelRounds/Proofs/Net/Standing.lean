import SentinelRounds.Net.Client
import SentinelRounds.Proofs.Depot.Memory

/-! What the state of a client tells about its link, from one call on the client to the next. -/

namespace SentinelRounds

/-- What a client is asked to do; connecting is the same whether or not its thread waits. -/
inductive Request
  /-- To connect, given what the system makes of it. -/
  | connect (opening : Opening)
  | send
  | receive
  | round
  | close
  deriving DecidableEq, Repr

namespace Request

/-- What a request that uses the link does on it. -/
def plan? : Request → Option Plan
  | .send => some [.call (.choose .send)]
  | .receive => some [.call (.choose .receive)]
  | .round => some .round
  | .connect _ | .close => none

end Request

/-- What a client has been asked for, and what has come of it. -/
abbrev Answer := Request × Except ClientFault Unit

namespace Answer

/-- Whether a client is halfway to a link after an answer, given whether it has been before. -/
def halfway (before : Bool) : Answer → Bool
  -- The socket has been opened, but its options could not be set.
  | (.connect _, .error .io) => true
  | (.close, _) => false
  | _ => before

/-- Whether an attempt to connect has ended halfway, and no close has come since. -/
def isHalfway (answers : List Answer) : Bool := answers.foldl halfway false

end Answer

namespace Client

variable {δ ι : Type}

/--
Works a plan off on the live link, given what the socket answers each time it is asked; nothing if
the answers do not take it to its end.
-/
def follow [Transferable ι] [Reversible ι] [Depot δ ι] (client : Client δ ι) :
    List Reply → Plan → Option (Except ClientFault Unit × Client δ ι)
  | _, [] => some (.ok (), client)
  | [], _ :: _ => none
  | reply :: replies, plan =>
    match client.step plan reply with
    -- A plan that has to wait asks again.
    | none => client.follow replies plan
    | some (.going plan, client) => client.follow replies plan
    | some (.failed fault, client) => some (.error (.link fault), client)
    | some (.lost, client) => some (.error .notConnected, client)

/-- How a call on a client can end, and what it leaves of the client. -/
inductive Answers [Transferable ι] [Reversible ι] [Depot δ ι] (client : Client δ ι) :
    Answer → Client δ ι → Prop
  | connect (opening : Opening) :
    Answers client (.connect opening, (client.connect opening).1) (client.connect opening).2
  | close : Answers client (.close, .ok ()) client.close.2
  /-- Without a link nothing is tried. -/
  | refuse {request : Request} {plan : Plan} {fault : ClientFault}
      (uses : request.plan? = some plan) (unlinked : client.connection = .error fault) :
    Answers client (request, .error fault) client
  | perform {request : Request} {plan : Plan} {replies : List Reply}
      {result : Except ClientFault Unit} {after : Client δ ι} (uses : request.plan? = some plan)
      (followed : client.follow replies plan = some (result, after))
      (stays : request = .round → result = .ok () → after.isClosing = false) :
    Answers client (request, result) after
  /-- A round that either end has asked to be the last one takes the link with it. -/
  | leave {replies : List Reply} {after : Client δ ι}
      (followed : client.follow replies .round = some (.ok (), after))
      (closing : after.isClosing = true) : Answers client (.round, .ok ()) after.close.2

/-- A client from when it is made, with the answers that it has given so far. -/
inductive Lives [Transferable ι] [Reversible ι] [Depot δ ι] (net : NetSettings) (hooks : Hooks ι)
    (site : Site δ) : List Answer → Client δ ι → Prop
  | made : Lives net hooks site [] { net, hooks, site }
  | asked {answers : List Answer} {before after : Client δ ι} {answer : Answer}
      (lives : Lives net hooks site answers before) (answered : before.Answers answer after) :
    Lives net hooks site (answers ++ [answer]) after
  /-- Whoever has the link may change its round between two calls. -/
  | acted {answers : List Answer} {client : Client δ ι}
      (lives : Lives net hooks site answers client) (actions : List (Action ι)) :
    Lives net hooks site answers (client.act actions)

/-- How an attempt to connect can end. -/
inductive Connects [Reversible ι] (client : Client δ ι) :
    Opening → Except ClientFault Unit → Client δ ι → Prop
  | fail (opening : Opening) {fault : ClientFault} (other : fault ≠ .io) :
    Connects client opening (.error fault) client
  /-- There is a socket, but nothing is made of it, and the client still counts as connecting. -/
  | stick (idle : client.state = .disconnected) (socket : Nat) :
    Connects client (.opened socket false) (.error .io) { client with state := .connecting }
  | link (idle : client.state = .disconnected) (socket : Nat) :
    Connects client (.opened socket true) (.ok ()) (client.attach socket)

/-- The state of a client agrees with its link and with the answers that it has given. -/
structure Agrees (answers : List Answer) (client : Client δ ι) : Prop where
  connected : client.state = .connected ↔ client.link.isSome = true
  connecting : client.state = .connecting ↔ Answer.isHalfway answers = true

/-- What comes of a client's answers after one more of them. -/
@[simp] theorem isHalfway_append (answers : List Answer) (answer : Answer) :
    Answer.isHalfway (answers ++ [answer]) = answer.halfway (Answer.isHalfway answers) :=
  List.foldl_append ..

/-- A client that may try to connect is disconnected; what keeps it from that is not the system. -/
theorem checkIdle_cases (client : Client δ ι) :
    (client.checkIdle = .ok () ∧ client.state = .disconnected) ∨
      ∃ fault, client.checkIdle = .error fault ∧ fault ≠ .io := by
  -- The settings are judged first, and then the state.
  unfold checkIdle
  split
  · exact .inr ⟨_, rfl, nofun⟩
  · split
    case isTrue idle => exact .inl ⟨rfl, idle⟩
    case isFalse => exact .inr ⟨_, rfl, nofun⟩

/-- An attempt that opens no socket leaves a client as it was. -/
theorem giveUp_eq {client : Client δ ι} (idle : client.state = .disconnected) :
    client.giveUp = client := by
  rw [giveUp, ← idle]

section

variable [Reversible ι]

/-- Every attempt to connect ends in one of these ways. -/
theorem connects {client after : Client δ ι} {opening : Opening} {result : Except ClientFault Unit}
    (ended : client.connect opening = (result, after)) :
    client.Connects opening result after := by
  -- The client is asked whether it may connect before the socket counts.
  unfold connect at ended
  rcases client.checkIdle_cases with ⟨idle, disconnected⟩ | ⟨fault, busy, other⟩
  · rw [idle] at ended
    cases opening with
    | unresolved | refused =>
      -- The client counts as connecting for a while, and then it does not any more.
      simp only [giveUp_eq disconnected] at ended
      cases ended
      exact .fail _ nofun
    | opened socket ready =>
      cases ready with
      | false =>
        cases ended
        exact .stick disconnected socket
      | true =>
        cases ended
        exact .link disconnected socket
  · rw [busy] at ended
    cases ended
    exact .fail opening other

/-- A client that has just been connected is in the state of one. -/
theorem attach_agrees (client : Client δ ι) (socket : Nat) :
    (client.attach socket).state = .connected ∧ (client.attach socket).link.isSome = true :=
  ⟨rfl, rfl⟩

end

/-- A client that has been closed is in the state of one. -/
theorem close_agrees (client : Client δ ι) :
    client.close.2.state = .disconnected ∧ client.close.2.link = none := ⟨rfl, rfl⟩

variable [Transferable ι] [Reversible ι] [Depot δ ι]

/-- A step on the live link leaves the state of the client alone, and its link in place. -/
theorem step_keeps {client after : Client δ ι} {plan : Plan} {reply : Reply} {progress : Progress}
    (stepped : client.step plan reply = some (progress, after)) :
    after.state = client.state ∧ after.link.isSome = client.link.isSome := by
  -- Without a link there is no step.
  unfold step at stepped
  split at stepped
  case h_1 => cases stepped
  case h_2 link live =>
    obtain ⟨⟨progress, last, site⟩, _, same⟩ := Option.map_eq_some_iff.mp stepped
    cases same
    exact ⟨rfl, by rw [live]; rfl⟩

/-- So does a plan, however it ends. -/
theorem follow_keeps {client after : Client δ ι} {replies : List Reply} {plan : Plan}
    {result : Except ClientFault Unit}
    (followed : client.follow replies plan = some (result, after)) :
    after.state = client.state ∧ after.link.isSome = client.link.isSome := by
  -- Every reply takes at most one step.
  induction replies generalizing client plan with
  | nil =>
    cases plan with
    | nil =>
      cases followed
      exact ⟨rfl, rfl⟩
    | cons => cases followed
  | cons reply replies ih =>
    cases plan with
    | nil =>
      cases followed
      exact ⟨rfl, rfl⟩
    | cons task plan =>
      simp only [follow] at followed
      split at followed
      -- The reply is used up without a step.
      case h_1 => exact ih followed
      case h_2 stepped =>
        -- The step keeps the link and its state, and so does the rest.
        obtain ⟨state, link⟩ := step_keeps stepped
        obtain ⟨later, last⟩ := ih followed
        exact ⟨later.trans state, last.trans link⟩
      case h_3 stepped | h_4 stepped =>
        -- The plan has ended with this step.
        cases followed
        exact step_keeps stepped

/-- Only an attempt to connect ends halfway, and only a close undoes that. -/
theorem halfway_of_uses {request : Request} {plan : Plan} (uses : request.plan? = some plan)
    (before : Bool) (result : Except ClientFault Unit) :
    Answer.halfway before (request, result) = before := by
  -- A request with a plan neither connects nor closes.
  cases request with
  | connect | close => cases uses
  | send | receive | round => rfl

omit [Transferable ι] [Depot δ ι] in
/-- An attempt to connect leaves the state in agreement with the link. -/
theorem Connects.agrees {client after : Client δ ι} {opening : Opening}
    {result : Except ClientFault Unit} {answers : List Answer}
    (connects : client.Connects opening result after) (agrees : client.Agrees answers) :
    after.Agrees (answers ++ [(.connect opening, result)]) := by
  -- The attempt changes nothing, or it ends halfway, or there is a link.
  cases connects with
  | @fail _ fault other =>
    have same : Answer.halfway (Answer.isHalfway answers) (.connect opening, .error fault) =
        Answer.isHalfway answers := by
      cases fault <;> first | rfl | exact absurd rfl other
    exact ⟨agrees.connected, by rw [isHalfway_append, same, agrees.connecting]⟩
  | stick idle socket =>
    -- It has had no link before, and has none now.
    have unlinked : ¬ client.link.isSome = true := by simp [← agrees.connected, idle]
    exact ⟨by simp [unlinked], by simp [Answer.halfway]⟩
  | link idle socket =>
    have before : ¬ Answer.isHalfway answers = true := by simp [← agrees.connecting, idle]
    obtain ⟨state, linked⟩ := attach_agrees client socket
    exact ⟨by simp [state, linked], by simp [state, Answer.halfway, before]⟩

/-- Whatever a client is asked for, its state agrees with its link afterwards. -/
theorem Answers.agrees {client after : Client δ ι} {answer : Answer} {answers : List Answer}
    (answered : client.Answers answer after) (agrees : client.Agrees answers) :
    after.Agrees (answers ++ [answer]) := by
  -- The cases are the ways in which a call can end.
  cases answered with
  | connect opening => exact (connects rfl).agrees agrees
  | close =>
    obtain ⟨state, unlinked⟩ := close_agrees client
    exact ⟨by simp [state, unlinked], by simp [state, Answer.halfway]⟩
  | refuse uses =>
    exact ⟨agrees.connected, by rw [isHalfway_append, halfway_of_uses uses, agrees.connecting]⟩
  | perform uses followed =>
    obtain ⟨state, linked⟩ := follow_keeps followed
    refine ⟨?_, ?_⟩
    · rw [state, linked, agrees.connected]
    · rw [isHalfway_append, halfway_of_uses uses, state, agrees.connecting]
  | @leave replies last followed closing =>
    -- There has been a link to close, so the client was not halfway.
    obtain ⟨_, kept⟩ := follow_keeps followed
    have linked : client.link.isSome = true := by
      rw [← kept]
      unfold isClosing at closing
      split at closing
      · simp [*]
      · cases closing
    have before : ¬ Answer.isHalfway answers = true := by
      simp [← agrees.connecting, agrees.connected.mpr linked]
    obtain ⟨state, unlinked⟩ := close_agrees last
    exact ⟨by simp [state, unlinked], by simp [state, Answer.halfway, before]⟩

/-- Over its whole life the state of a client agrees with its link. -/
theorem Lives.agrees {net : NetSettings} {hooks : Hooks ι} {site : Site δ} {answers : List Answer}
    {client : Client δ ι} (lives : Lives net hooks site answers client) :
    client.Agrees answers := by
  -- A fresh client agrees, and every answer keeps it so.
  induction lives with
  | made => exact ⟨by simp, by simp [Answer.isHalfway]⟩
  | asked _ answered ih => exact answered.agrees ih
  | acted _ actions ih => exact ⟨by simpa [act] using ih.connected, ih.connecting⟩

/--
The state of a client tells whether it has a link, except after one kind of failure.

A client is made, and asked for this and that, one call after the other, whatever the system and the
sockets answer. Between the calls it is connected exactly when it has a link; it is connecting
exactly when an attempt to connect has ended with a socket whose options could not be set, and no
close has come since; and otherwise it is disconnected, without a link. An attempt that fails leaves
the client as it was, except for the one that ends so, which leaves it connecting; and a client that
is connecting fails to connect, whatever the system makes of it.
-/
theorem Lives.state_tells {net : NetSettings} {hooks : Hooks ι} {site : Site δ}
    {answers : List Answer} {client : Client δ ι} (lives : Lives net hooks site answers client) :
    (client.state = .connected ↔ client.link.isSome = true) ∧
    (client.state = .connecting ↔ Answer.isHalfway answers = true) ∧
    (client.state = .disconnected ↔ client.link = none ∧ Answer.isHalfway answers = false) ∧
    (∀ opening fault, (client.connect opening).1 = .error fault →
      (client.connect opening).2 = client ∨
        client.state = .disconnected ∧ fault = .io ∧ (∃ socket, opening = .opened socket false) ∧
          (client.connect opening).2 = { client with state := .connecting }) ∧
    (client.state = .connecting → ∀ opening, ∃ fault,
      client.connect opening = (.error fault, client)) := by
  -- Agreement settles what the state says, and the rest is how attempts end.
  obtain ⟨connected, connecting⟩ := lives.agrees
  refine ⟨connected, connecting, ?_, fun opening fault failed => ?_, fun busy opening => ?_⟩
  · -- The third state is what is left of the other two.
    rw [← Option.isNone_iff_eq_none, ← Option.not_isSome, Bool.not_eq_true', ← Bool.not_eq_true,
      ← connected, ← Bool.not_eq_true, ← connecting]
    cases client.state <;> simp
  · rcases ended : client.connect opening with ⟨result, after⟩
    rw [ended] at failed
    cases connects ended with
    | fail => exact .inl rfl
    | stick idle socket => exact .inr ⟨idle, (Except.error.inj failed).symm, ⟨socket, rfl⟩, rfl⟩
    | link => cases failed
  · rcases ended : client.connect opening with ⟨result, after⟩
    -- Only a client that is disconnected gets as far as a socket.
    cases connects ended with
    | @fail _ fault => exact ⟨fault, rfl⟩
    | stick idle | link idle => cases busy.symm.trans idle

/--
A client is refused, connects, and fails to receive: it is connected still. Once it has been closed,
the options of the next socket cannot be set: it is connecting, without a link.
-/
theorem Lives.state_tells_failing :
    let first : List Request := [.connect .refused, .connect (.opened 7 true), .receive]
    let second : List Request := [.close, .connect (.opened 8 false)]
    ∃ early late, ∃ linked stuck : Client MemoryDepot Parcel,
      Lives {} .none { depot := {} } early linked ∧ early.map Prod.fst = first ∧
      linked.link.isSome = true ∧ linked.state = .connected ∧
      Lives {} .none { depot := {} } late stuck ∧ late.map Prod.fst = first ++ second ∧
      stuck.state = .connecting ∧ stuck.link = none ∧ Answer.isHalfway late = true := by
  -- The calls are made one after the other, and each is one of the client's answers.
  intro first second
  let fresh : Client MemoryDepot Parcel := { net := {}, hooks := .none, site := { depot := {} } }
  let refused := (fresh.connect .refused).2
  let opened := (refused.connect (.opened 7 true)).2
  let receive : Plan := [.call (.choose .receive)]
  have failing : (opened.follow (List.replicate 7 .failed) receive).any (fun (_, linked) =>
      linked.link.isSome ∧ (linked.close.2.connect (.opened 8 false)).2.state = .connecting ∧
        (linked.close.2.connect (.opened 8 false)).2.link = none) = true := by
    decide +kernel
  obtain ⟨⟨_, linked⟩, followed, reached⟩ := (Option.any_eq_true _ _).mp failing
  obtain ⟨holds, state, unlinked⟩ := of_decide_eq_true reached
  have received : opened.Answers (.receive, _) linked := .perform rfl followed nofun
  have early :=
    ((Lives.made.asked (.connect .refused)).asked (.connect (.opened 7 true))).asked received
  have late := (early.asked .close).asked (.connect (.opened 8 false))
  exact ⟨_, _, linked, _, early, rfl, holds, early.state_tells.1.mpr holds, late, rfl, state,
    unlinked, late.state_tells.2.1.mp state⟩

/--
A client connects for the first time, and the options of its socket cannot be set: it stays
connecting without a link, where it has been disconnected, and cannot connect again.
-/
theorem Lives.sticks :
    let fresh : Client MemoryDepot Parcel := { net := {}, hooks := .none, site := { depot := {} } }
    let stuck := (fresh.connect (.opened 7 false)).2
    Lives {} .none { depot := {} } [(.connect (.opened 7 false), .error .io)] stuck ∧
      fresh.state = .disconnected ∧ stuck.state = .connecting ∧ stuck.link = none ∧
      (stuck.connect (.opened 8 true)).1 = .error .alreadyConnected := by
  -- The standard settings pass their check, so the socket decides.
  intro fresh stuck
  have checked : fresh.net.settings.check = .ok () := by
    rw [Settings.check, Settings.checkFor, if_neg (by decide), if_neg (by decide),
      if_neg (by decide +kernel), if_neg (by decide)]
  have opened :
      fresh.connect (.opened 7 false) = (.error .io, { fresh with state := .connecting }) := by
    simp only [connect, checkIdle, checked]
    rfl
  have answered : fresh.Answers _ stuck := .connect (.opened 7 false)
  have same : stuck = { fresh with state := .connecting } := congrArg Prod.snd opened
  rw [opened] at answered
  refine ⟨Lives.made.asked answered, rfl, congrArg state same, congrArg link same, ?_⟩
  rw [same]
  simp only [connect, checkIdle, checked]
  rfl

end Client

end SentinelRounds
