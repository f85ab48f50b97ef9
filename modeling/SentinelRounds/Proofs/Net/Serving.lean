import SentinelRounds.Net.Server
import SentinelRounds.Proofs.Depot.Memory
import SentinelRounds.Proofs.Net.Moves

/-! The runs of one round of a server, in which its two halves take their steps in any order. -/

namespace SentinelRounds

namespace Service

/-- Whether a service is within a round. -/
def inRound : Service → Bool
  | .request _ | .mode | .halves _ _ => true
  | _ => false

/-- What a service does in its next step. -/
def deed? (cue : Cue) : Service → Option Deed
  | .request plan => plan.deed? cue.reply
  | .halves incoming outgoing =>
    match cue.half with
    | .receive => incoming.deed? cue.reply
    | .send => outgoing.deed? cue.reply
  | _ => none

/-- What one half loses in a step of the other half. -/
def losses (half : Transit) (before after : Context) : Service → List Deed
  | .halves incoming outgoing =>
    match half with
    | .receive => outgoing.losses .send before after
    | .send => incoming.losses .receive before after
  | _ => []

end Service

/-- Where the service of one link stands, with the round and the depot that it works on. -/
structure Stand (δ ι : Type) where
  service : Service
  round : Round ι
  depot : δ

variable {δ ι : Type}

/-- One step of a service within a round: what it makes of the round, and what it does besides. -/
inductive Stand.Moves [Transferable ι] [Reversible ι] [Depot δ ι] (hooks : Hooks ι) (role : Role) :
    Stand δ ι → List Deed → Stand δ ι → Prop
  | request {plan onward : Plan} {round after : Round ι} {depot store : δ} {deed : Option Deed}
      (moves : Plan.Moves hooks role plan round depot deed onward after store) :
    Moves hooks role ⟨.request plan, round, depot⟩ deed.toList
      ⟨if onward = [] then .mode else .request onward, after, store⟩
  | mode (round : Round ι) (depot : δ) :
    Moves hooks role ⟨.mode, round, depot⟩ []
      ⟨.halves .request (.response (role.pipelines round.context.synchronic)), round, depot⟩
  | incoming {incoming onward : Plan} (outgoing : Plan) {round after : Round ι} {depot store : δ}
      {deed : Option Deed}
      (moves : Plan.Moves hooks role incoming round depot deed onward after store) :
    Moves hooks role ⟨.halves incoming outgoing, round, depot⟩
      (deed.toList ++ outgoing.losses .send round.context after.context)
      ⟨.ofHalves onward outgoing, after, store⟩
  | outgoing (incoming : Plan) {outgoing onward : Plan} {round after : Round ι} {depot store : δ}
      {deed : Option Deed}
      (moves : Plan.Moves hooks role outgoing round depot deed onward after store) :
    Moves hooks role ⟨.halves incoming outgoing, round, depot⟩
      (deed.toList ++ incoming.losses .receive round.context after.context)
      ⟨.ofHalves incoming onward, after, store⟩
  | fall {plan : Plan} {round after : Round ι} {depot store : δ} {deed : Option Deed}
      (falls : Plan.Falls hooks role plan round depot deed after store) :
    Moves hooks role ⟨.request plan, round, depot⟩ deed.toList ⟨.fallen, after, store⟩
  | fallIncoming {incoming : Plan} (outgoing : Plan) {round after : Round ι} {depot store : δ}
      {deed : Option Deed} (falls : Plan.Falls hooks role incoming round depot deed after store) :
    Moves hooks role ⟨.halves incoming outgoing, round, depot⟩
      (deed.toList ++ outgoing.losses .send round.context after.context) ⟨.fallen, after, store⟩
  | fallOutgoing (incoming : Plan) {outgoing : Plan} {round after : Round ι} {depot store : δ}
      {deed : Option Deed} (falls : Plan.Falls hooks role outgoing round depot deed after store) :
    Moves hooks role ⟨.halves incoming outgoing, round, depot⟩
      (deed.toList ++ incoming.losses .receive round.context after.context) ⟨.fallen, after, store⟩
  | quit (service : Service) (round after : Round ι) (depot store : δ) :
    Moves hooks role ⟨service, round, depot⟩ [] ⟨.unregister, after, store⟩

namespace Server

/-- The service of a link stands somewhere, and the link is as given. -/
structure At (server : Server δ ι) (id : Nat) (service : Service) (link : Link ι) : Prop where
  service : server.services.get? id = some service
  link : server.links.get? id = some link

/-- A server with a single link, in front of the link's next round. -/
def ofLink (hooks : Hooks ι) (site : Site δ) (link : Link ι) : Server δ ι :=
  { net := {}, hooks, site
    links := Keyed.empty.insert link.id link
    registry := [link.id]
    services := Keyed.empty.insert link.id (.request .greeting)
    table := [link.id] }

/-- The link of such a server stands in front of a round. -/
theorem at_ofLink (hooks : Hooks ι) (site : Site δ) (link : Link ι) :
    (ofLink hooks site link).At link.id (.request .greeting) link :=
  ⟨(Keyed.get?_insert ..).trans (if_pos rfl), (Keyed.get?_insert ..).trans (if_pos rfl)⟩

/-- What a service does in a step that leads from one server to another. -/
def deeds (before : Server δ ι) (id : Nat) (cue : Cue) (after : Server δ ι) : List Deed :=
  match before.services.get? id, before.links.get? id, after.links.get? id with
  | some service, some old, some new =>
    (service.deed? cue).toList ++ service.losses cue.half old.round.context new.round.context
  | _, _, _ => []

/-- What stands in a server once the outcome of a step has been put back. -/
theorem at_store (server : Server δ ι) (id : Nat) (service : Service) (link : Link ι)
    (site : Site δ) : (server.store id service link site).At id service link :=
  ⟨(Keyed.get?_insert ..).trans (if_pos rfl), (Keyed.get?_insert ..).trans (if_pos rfl)⟩

variable [Transferable ι] [Reversible ι] [Depot δ ι]

/-- A run of one service within a round, and what it does on the way. -/
inductive Serves (id : Nat) : Server δ ι → List Deed → Server δ ι → Prop
  | refl (server : Server δ ι) : Serves id server [] server
  | tail {server between after : Server δ ι} {done : List Deed} {service : Service} {cue : Cue}
      (run : Serves id server done between) (stands : between.services.get? id = some service)
      (within : service.inRound = true) (served : between.serve id cue = some after) :
    Serves id server (done ++ between.deeds id cue after) after

/--
Following a plan moves the service as the plan moves, or takes it out of the round, in order or for
good.
-/
theorem follow_moves {server after : Server δ ι} {id : Nat} {reply : Reply} {plan : Plan}
    {link : Link ι} {onward : Plan → Service}
    (followed : ((plan.step server.hooks (server.registry.contains id) reply link server.site).map
      fun (progress, link, site) =>
        match progress with
        | .going plan => server.store id (onward plan) link site
        | .failed fault =>
          server.store id (if fault.isFatal then .fallen else .unregister) link site
        | .lost => server.store id .unregister link site) = some after) :
    ∃ service last, after.At id service last ∧ last.role = link.role ∧
      after.hooks = server.hooks ∧
      ((∃ next, service = onward next ∧ Plan.Moves server.hooks link.role plan link.round
          server.site.depot (plan.deed? reply) next last.round after.site.depot) ∨
        (service = .unregister ∧ plan.deed? reply = none ∧
          ∀ transit, last.round.context.due transit = link.round.context.due transit) ∨
        (service = .fallen ∧ Plan.Falls server.hooks link.role plan link.round server.site.depot
          (plan.deed? reply) last.round after.site.depot)) := by
  -- The plan goes on, comes to nothing, or does not return.
  obtain ⟨⟨progress, last, site⟩, stepped, rfl⟩ := Option.map_eq_some_iff.mp followed
  obtain ⟨played, moved⟩ := Plan.moves_of_step stepped
  rcases moved with ⟨next, rfl, moves⟩ | ⟨rfl | ⟨fault, rfl, returned⟩, quiet⟩ |
    ⟨⟨fault, rfl, fatal⟩, falls⟩
  · exact ⟨onward next, last, at_store .., played, rfl, .inl ⟨next, rfl, moves⟩⟩
  · exact ⟨.unregister, last, at_store .., played, rfl, .inr (.inl ⟨rfl, quiet⟩)⟩
  · -- A call that has failed in order lets the service go on to its end.
    simp only [returned, Bool.false_eq_true, if_false]
    exact ⟨.unregister, last, at_store .., played, rfl, .inr (.inl ⟨rfl, quiet⟩)⟩
  · simp only [fatal, if_true]
    exact ⟨.fallen, last, at_store .., played, rfl, .inr (.inr ⟨rfl, falls⟩)⟩

/-- Where no message ends, neither half loses anything. -/
theorem losses_same {service : Service} {half : Transit} {before after : Context}
    (same : ∀ transit, after.due transit = before.due transit) :
    service.losses half before after = [] := by
  -- Only halves have something to lose.
  cases service with
  | halves incoming outgoing => cases half <;> exact Plan.losses_same _ _ (same _)
  | _ => rfl

/-- A step of a service within a round moves where it stands, and nothing else in it changes. -/
theorem serve_moves {server after : Server δ ι} {id : Nat} {cue : Cue} {service : Service}
    {link : Link ι} (stands : server.At id service link) (within : service.inRound = true)
    (served : server.serve id cue = some after) :
    ∃ onward last, after.At id onward last ∧ last.role = link.role ∧ after.hooks = server.hooks ∧
      Stand.Moves server.hooks link.role ⟨service, link.round, server.site.depot⟩
        (server.deeds id cue after) ⟨onward, last.round, after.site.depot⟩ := by
  -- The service and its link are where the step finds them.
  simp only [serve, stands.service, stands.link, Option.bind_eq_bind, Option.bind_some] at served
  have deeds : ∀ {onward : Service} {last : Link ι}, after.At id onward last →
      server.deeds id cue after = (service.deed? cue).toList ++
        service.losses cue.half link.round.context last.round.context := fun stays => by
    simp only [Server.deeds, stands.service, stands.link, stays.link]
  -- The deeds are those of the half that the cue is for, and the losses those of the other one.
  cases service with
  | request plan =>
    obtain ⟨onward, last, stays, played, hooked, moved⟩ := follow_moves served
    refine ⟨onward, last, stays, played, hooked, ?_⟩
    rw [deeds stays]
    rcases moved with ⟨next, rfl, moves⟩ | ⟨rfl, quiet, _⟩ | ⟨rfl, falls⟩
    · have moved := Stand.Moves.request moves
      rw [← List.append_nil (Option.toList _)] at moved
      exact moved
    · simp only [Service.deed?, quiet]
      exact .quit ..
    · have moved := Stand.Moves.fall falls
      rw [← List.append_nil (Option.toList _)] at moved
      exact moved
  | mode =>
    cases served
    refine ⟨_, link, at_store .., rfl, rfl, ?_⟩
    rw [deeds (at_store ..)]
    exact .mode ..
  | halves incoming outgoing =>
    rcases cue with ⟨half, reply⟩
    cases half with
    | receive =>
      obtain ⟨onward, last, stays, played, hooked, moved⟩ := follow_moves served
      refine ⟨onward, last, stays, played, hooked, ?_⟩
      rw [deeds stays]
      rcases moved with ⟨next, rfl, moves⟩ | ⟨rfl, quiet, same⟩ | ⟨rfl, falls⟩
      · exact .incoming _ moves
      · rw [losses_same same]
        simp only [Service.deed?, quiet]
        exact .quit ..
      · exact .fallIncoming _ falls
    | send =>
      obtain ⟨onward, last, stays, played, hooked, moved⟩ := follow_moves served
      refine ⟨onward, last, stays, played, hooked, ?_⟩
      rw [deeds stays]
      rcases moved with ⟨next, rfl, moves⟩ | ⟨rfl, quiet, same⟩ | ⟨rfl, falls⟩
      · exact .outgoing _ moves
      · rw [losses_same same]
        simp only [Service.deed?, quiet]
        exact .quit ..
      · exact .fallOutgoing _ falls
  | _ => cases within

/-- What every move keeps holds at the end of a run. -/
theorem Serves.invariant {server after : Server δ ι} {id : Nat} {done : List Deed}
    {service : Service} {link : Link ι} (run : server.Serves id done after)
    (holds : List Deed → Stand δ ι → Prop) (stands : server.At id service link)
    (initially : holds [] ⟨service, link.round, server.site.depot⟩)
    (kept : ∀ done more before after, holds done before →
      Stand.Moves server.hooks link.role before more after → holds (done ++ more) after) :
    ∃ onward last, after.At id onward last ∧ last.role = link.role ∧
      after.hooks = server.hooks ∧ holds done ⟨onward, last.round, after.site.depot⟩ := by
  -- The run is followed from its first state.
  induction run with
  | refl => exact ⟨service, link, stands, rfl, rfl, initially⟩
  | tail run found within served ih =>
    obtain ⟨onward, last, stays, played, hooked, still⟩ := ih
    cases Option.some.inj (found.symm.trans stays.service)
    obtain ⟨next, left, stays, still', hooked', moves⟩ := serve_moves stays within served
    rw [hooked, played] at moves
    exact ⟨next, left, stays, still'.trans played, hooked'.trans hooked,
      kept _ _ _ _ still moves⟩

/-- The run in which a service gets some cues one after the other, as far as it stays in the round. -/
def follow (id : Nat) : List Cue → Server δ ι → Option (List Deed × Server δ ι)
  | [], server => some ([], server)
  | cue :: cues, server => do
    let service ← server.services.get? id
    if service.inRound then
      let after ← server.serve id cue
      let (done, last) ← follow id cues after
      some (server.deeds id cue after ++ done, last)
    else none

/-- One step, and then a run from the state after it. -/
theorem Serves.head {server between after : Server δ ι} {id : Nat} {done : List Deed}
    {service : Service} {cue : Cue} (stands : server.services.get? id = some service)
    (within : service.inRound = true) (served : server.serve id cue = some between)
    (run : Serves id between done after) :
    Serves id server (server.deeds id cue between ++ done) after := by
  -- The run grows at its other end.
  induction run with
  | refl =>
    rw [List.append_nil]
    exact .tail (.refl server) stands within served
  | tail run found inside moved ih =>
    rw [← List.append_assoc]
    exact .tail ih found inside moved

/-- Following cues is a run. -/
theorem serves_of_follow {id : Nat} {cues : List Cue} {server after : Server δ ι}
    {done : List Deed} (followed : follow id cues server = some (done, after)) :
    Serves id server done after := by
  -- The first cue makes the first step.
  induction cues generalizing server done with
  | nil =>
    cases followed
    exact .refl _
  | cons cue cues ih =>
    simp only [follow, Option.bind_eq_bind, Option.bind_eq_some_iff] at followed
    obtain ⟨service, found, followed⟩ := followed
    split at followed
    · rename_i within
      simp only [Option.bind_eq_some_iff] at followed
      obtain ⟨between, served, ⟨rest, last⟩, remaining, same⟩ := followed
      cases same
      exact .head found within served (ih remaining)
    · cases followed

/-- Whether some cues can be followed, and a test holds of what is done and of where that leads. -/
def plays (server : Server δ ι) (id : Nat) (cues : List Cue)
    (test : List Deed → Server δ ι → Service → Link ι → Bool) : Bool :=
  match follow id cues server with
  | some (done, after) =>
    match after.services.get? id, after.links.get? id with
    | some service, some link => test done after service link
    | _, _ => false
  | none => false

/-- Cues that can be followed make a run, and the test holds at its end. -/
theorem serves_of_plays {server : Server δ ι} {id : Nat} {cues : List Cue}
    {test : List Deed → Server δ ι → Service → Link ι → Bool}
    (played : server.plays id cues test = true) :
    ∃ done after service link, Serves id server done after ∧ after.At id service link ∧
      test done after service link = true := by
  -- The test has found a service and its link at the end.
  unfold plays at played
  split at played
  · rename_i done after followed
    split at played
    · rename_i service link stands linked
      exact ⟨done, after, service, link, serves_of_follow followed, ⟨stands, linked⟩, played⟩
    · cases played
  · cases played

end Server

namespace Cue

/-- Cues for some steps of a half that do not need the socket. -/
def pass (half : Transit) (steps : Nat) : List Cue := List.replicate steps ⟨half, .pending⟩

/-- Cues for some steps of the half that receives, and then for one that receives bytes. -/
def deliver (steps : Nat) (bytes : Bytes) : List Cue :=
  pass .receive steps ++ [⟨.receive, .bytes bytes⟩]

/-- Cues for some steps of the half that sends, and then for one in which its bytes go out. -/
def emit (steps : Nat) : List Cue := pass .send steps ++ [⟨.send, .done⟩]

end Cue

end SentinelRounds
