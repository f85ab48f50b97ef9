import SentinelRounds.Proofs.Round.Actions
import SentinelRounds.Proofs.Round.Due
import SentinelRounds.Proofs.Round.Halting
import SentinelRounds.Proofs.Round.Speaker

/-! In every round the counters of both directions agree with the messages that they count. -/

namespace SentinelRounds

/-- Whether a change replaces the items that are to be sent. -/
def Action.Replaces {ι : Type} : Action ι → Prop
  | .items _ | .setItems _ | .clear | .echo | .reverse => True
  | _ => False

namespace Round

variable {δ ι : Type}

/--
Whether an operation may be done: only the first header of a round is heard, and the outgoing items
are not replaced while they are being sent; everything else may be done at any time.
-/
def Operation.Timely (heard : Bool) (round : Round ι) : Operation ι → Prop
  | .dispatch .receive .header (some _) => heard = false
  | .act action => action.Replaces → round.context.sending.active = false
  | _ => True

/-- Whether a header has been heard in the round that an operation leaves. -/
def Operation.hears (heard : Bool) : Operation ι → Bool
  | .dispatch .receive .header (some _) => true
  | .reset => false
  | _ => heard

/--
The rounds that a connection can come to, each with its role, whether it has heard a header, and the
depot, which other connections may use as well.
-/
inductive Reached (identity : Identity) (settings : Settings) :
    Role → Bool → Round Parcel → MemoryDepot → Prop
  /-- A round starts once its buffers are there. -/
  | start (role : Role) (depot : MemoryDepot) (allocates : settings.Allocates) :
    Reached identity settings role false (.ofContext (.initial identity settings)) depot
  | step {role : Role} {heard : Bool} {round : Round Parcel} {depot : MemoryDepot}
      (reached : Reached identity settings role heard round depot) (operation : Operation Parcel)
      (timely : operation.Timely heard round) :
    Reached identity settings role (operation.hears heard)
      (round.perform role depot operation).2.1 (round.perform role depot operation).2.2
  /-- The next round may be that of the other role. -/
  | turn {role : Role} {heard : Bool} {round : Round Parcel} {depot : MemoryDepot}
      (reached : Reached identity settings role heard round depot) (next : Role) :
    Reached identity settings next false (round.reset next) depot
  /-- The counters may be reset without the messages. -/
  | rewind {role : Role} {heard : Bool} {round : Round Parcel} {depot : MemoryDepot}
      (reached : Reached identity settings role heard round depot) (next : Role) :
    Reached identity settings next false (round.onContext Context.reset) depot
  /-- Whatever others do to the depot, no peer loses its place there. -/
  | share {role : Role} {heard : Bool} {round : Round Parcel} {depot store : MemoryDepot}
      (reached : Reached identity settings role heard round depot)
      (places : ∀ id, depot.targets.contains id = true → store.targets.contains id = true) :
    Reached identity settings role heard round store

/-- Whether some operations are done in time, one after the other. -/
def TimelyAll (role : Role) : (heard : Bool) → History MemoryDepot Parcel →
    List (Operation Parcel) → Prop
  | _, _, [] => True
  | heard, history, operation :: operations =>
    operation.Timely heard history.round ∧
      TimelyAll role (operation.hears heard) (history.perform role operation) operations

/-- Any number of operations in time lead to a round that can be reached. -/
theorem Reached.performAll {identity : Identity} {settings : Settings} {role : Role} {heard : Bool}
    {history : History MemoryDepot Parcel} {operations : List (Operation Parcel)}
    (reached : Reached identity settings role heard history.round history.depot)
    (timely : TimelyAll role heard history operations) :
    Reached identity settings role (operations.foldl (fun heard next => next.hears heard) heard)
      (history.performAll role operations).round (history.performAll role operations).depot := by
  -- The operations are done one after the other.
  induction operations generalizing heard history with
  | nil => exact reached
  | cons operation operations ih => exact ih (reached.step operation timely.1) timely.2

/-- A move of the outgoing side does not touch the incoming message. -/
theorem Outgoing.incoming_eq {role : Role} {act : Round ι → Except RoundFault Markup × Round ι}
    (outgoing : Outgoing role act) (round : Round ι) :
    (act round).2.incoming role = round.incoming role := by
  -- The incoming side as a whole is left alone.
  have apart := congrArg (fun side : Round ι => side.incoming role) (outgoing.apart round)
  cases role <;> exact apart

section Receiving

variable {role : Role} {heard : Bool} {round : Round Parcel} {depot : MemoryDepot}

/-- A change of the context that leaves the counters of receiving alone. -/
theorem Tallies.onContext (tallies : round.Tallies role heard depot) (change : Context → Context)
    (peer : (change round.context).peer = round.context.peer)
    (receiving : (change round.context).receiving = round.context.receiving) :
    (round.onContext change).Tallies role heard depot :=
  tallies.kept peer (by cases role <;> rfl) (.inl receiving) fun _ place => place

/-- Sending leaves them alone. -/
theorem Tallies.sent (tallies : round.Tallies role heard depot)
    {act : Round Parcel → Except RoundFault Markup × Round Parcel} (outgoing : Outgoing role act) :
    (act round).2.Tallies role heard depot := by
  -- Sending touches neither the peer nor the counters of receiving.
  have context := outgoing.context_eq round
  have peer := congrArg Context.peer context
  have receiving := congrArg Context.receiving context
  exact tallies.kept peer (outgoing.incoming_eq round) (.inl receiving) fun _ place => place

/-- Whatever is done in time keeps the counters of receiving in order. -/
theorem Tallies.perform (tallies : round.Tallies role heard depot) {operation : Operation Parcel}
    (timely : operation.Timely heard round) :
    let after := round.perform role depot operation
    after.2.1.Tallies role (operation.hears heard) after.2.2 := by
  -- The cases are the operations.
  cases operation with
  | read phase bytes =>
    simp only [Round.perform, Context.read]
    split <;> exact tallies.onContext (fun context => { context with intake := _ }) rfl rfl
  | take phase => exact tallies.onContext (fun context => { context with intake := _ }) rfl rfl
  | flush => exact tallies.onContext (fun context => { context with output := [] }) rfl rfl
  | raise signal => exact tallies.onContext (fun context => context.raise signal) rfl rfl
  | release => exact tallies.onContext Context.release rfl rfl
  | reset => exact .nothing rfl rfl
  | act action =>
    -- The hooks leave the incoming message alone.
    have spared := action.spared_apply role round
    exact tallies.kept spared.peer spared.incoming spared.receiving fun _ place => place
  | dispatch transit phase inbound =>
    cases transit with
    | send =>
      cases phase with
      -- Sending leaves the incoming side alone.
      | header => cases inbound <;> exact tallies.sent (outgoing_sendHeader role)
      | message => cases inbound <;> exact tallies.sent (outgoing_sendMessage role)
    | receive =>
      cases inbound with
      | none => cases phase <;> exact tallies
      | some inbound =>
        cases phase with
        | header =>
          -- A header is received once, before any chunk.
          cases (timely : heard = false)
          exact tallies.receiveHeader inbound.frame
        | message => exact tallies.receiveMessage inbound.frame inbound.kind

end Receiving

/-- Nothing of the outgoing message has changed; at most it was cut off. -/
structure Undisturbed (role : Role) (before after : Round ι) : Prop where
  settings : after.context.settings = before.context.settings
  outgoing : after.outgoing role = before.outgoing role
  sending : after.context.sending = before.context.sending ∨
    after.context.sending = { before.context.sending with active := false }

namespace Undisturbed

variable {role : Role}

/-- Doing nothing disturbs nothing. -/
theorem refl (round : Round ι) : Undisturbed role round round := ⟨rfl, rfl, .inl rfl⟩

/-- What two changes leave alone, both together leave alone. -/
theorem trans {first second third : Round ι} (front : Undisturbed role first second)
    (back : Undisturbed role second third) : Undisturbed role first third := by
  -- Whatever both leave alone stays as it was.
  refine ⟨back.settings.trans front.settings, back.outgoing.trans front.outgoing, ?_⟩
  -- A message that has been cut off stays so.
  rcases front.sending with here | here <;> rcases back.sending with there | there <;>
    rw [there, here] <;> first | exact .inl rfl | exact .inr rfl

/-- A change to the context disturbs the message only where it touches it. -/
theorem ofContext (round : Round ι) (change : Context → Context)
    (settings : (change round.context).settings = round.context.settings)
    (sending : (change round.context).sending = round.context.sending ∨
      (change round.context).sending = { round.context.sending with active := false }) :
    Undisturbed role round (round.onContext change) := by
  -- Messages are no part of the context.
  cases role <;> exact ⟨settings, rfl, sending⟩

/-- A fault cuts the outgoing message off. -/
theorem fault (round : Round ι) (fault : RoundFault) :
    Undisturbed role round (round.fault role fault) := by
  cases role <;> exact ⟨rfl, rfl, .inr rfl⟩

/-- A header that comes in does no more than that. -/
theorem receiveHeader [Depot δ ι] (round : Round ι) (depot : δ) (frame : Bytes) :
    Undisturbed role round (round.receiveHeader depot role frame).1 := by
  -- It is enough that each step of receiving leaves the message alone.
  refine receiveHeader_keeps (fun base header same => same.trans ?_)
    (fun base line same => same.trans ?_) (fun base same => same.trans ?_)
    (fun base header items same => same.trans ?_) (fun base reason same => same.trans ?_)
    (fun base fault same => same.trans (Undisturbed.fault base fault)) (refl round) depot frame
  · cases role <;> exact ⟨rfl, rfl, .inl rfl⟩
  · cases role <;> exact ⟨rfl, rfl, .inl rfl⟩
  · cases role <;> exact ⟨rfl, rfl, .inl rfl⟩
  · rw [expect_eq]
    cases role <;> exact ⟨rfl, rfl, .inl rfl⟩
  · cases role <;> exact ⟨rfl, rfl, .inr rfl⟩

/-- Nor does a chunk. -/
theorem receiveMessage [Transferable ι] [Depot δ ι] (round : Round ι) (depot : δ) (frame : Bytes)
    (kind : Markup) : Undisturbed role round (round.receiveMessage depot role frame kind).1 := by
  -- It is enough that each step of receiving leaves the message alone.
  refine receiveMessage_keeps (fun base grown same => same.trans ?_)
    (fun base same => same.trans ?_) (fun base same => same.trans ?_)
    (fun base fault same => same.trans (Undisturbed.fault base fault)) (refl round) depot frame kind
  · cases role <;> exact ⟨rfl, rfl, .inl rfl⟩
  · cases role <;> exact ⟨rfl, rfl, .inl rfl⟩
  · simp only [onContext, finishItem_eq]
    cases role <;> exact ⟨rfl, rfl, .inl rfl⟩

/-- The code around a round disturbs the message only if it replaces its items. -/
theorem apply [Reversible ι] (round : Round ι) {action : Action ι} (keeps : ¬ action.Replaces) :
    Undisturbed role round (action.apply role round) := by
  -- All actions but the halt leave the message alone.
  cases action with
  | halt => cases role <;> exact ⟨rfl, rfl, .inr rfl⟩
  | synchronicIfItems =>
    simp only [Action.apply]
    split <;> cases role <;> exact ⟨rfl, rfl, .inl rfl⟩
  | items | setItems | clear | echo | reverse => exact absurd trivial keeps
  | _ => cases role <;> exact ⟨rfl, rfl, .inl rfl⟩

/-- Nor do several changes that replace nothing. -/
theorem applyAll [Reversible ι] (round : Round ι) {actions : List (Action ι)}
    (keeps : ∀ action ∈ actions, ¬ action.Replaces) :
    Undisturbed role round (Action.applyAll actions role round) := by
  -- One change comes after the other.
  induction actions generalizing round with
  | nil => exact refl round
  | cons action actions ih =>
    have first := @apply _ role _ round _ (keeps action List.mem_cons_self)
    exact first.trans (ih _ fun other member => keeps other (List.mem_cons_of_mem _ member))

end Undisturbed

/-- Without memory for a batch, a chunk only notes its item, and none is sent. -/
theorem lost_sendMessage (role : Role) (round : Round Parcel)
    (long : allocationBound ≤ round.context.settings.batchSize) :
    (round.sendMessage role).2 =
      if round.context.sending.item < (round.outgoing role).items.length then
        round.onContext fun context =>
          { context with itemIndex := round.context.sending.item }
      else round := by
  -- Whether there is an item to send is found out before the memory is asked for.
  simp only [Round.sendMessage]
  split
  · rename_i missing
    rw [if_neg (Nat.not_lt.mpr (List.getElem?_eq_none_iff.mp missing))]
  · -- The item is noted first.
    rename_i item here
    rw [if_pos (List.getElem?_eq_some_iff.mp here).1]
    exact congrArg Prod.snd (if_pos long)

/-- How the counters of sending stand: a message that is being sent is at a place in it. -/
structure Underway (role : Role) (settings : Settings) (round : Round Parcel) : Prop where
  configured : round.context.settings = settings
  stands : round.context.sending.active = true → ∃ items place,
    round.Sends role settings items (some place) ∧
      ∀ item ∈ items, item.chunkCount settings.batchSize < UInt32.size

namespace Underway

variable {role : Role} {settings : Settings} {round after : Round Parcel} {depot : MemoryDepot}

/-- Where nothing is being sent, no place is needed. -/
theorem idle (configured : round.context.settings = settings)
    (idle : round.context.sending.active = false) : round.Underway role settings :=
  ⟨configured, fun active => absurd (idle.symm.trans active) Bool.false_ne_true⟩

/-- A message that is not disturbed stays where it is. -/
theorem undisturbed (underway : round.Underway role settings)
    (same : Undisturbed role round after) : after.Underway role settings := by
  -- The message is where it was, or it is over.
  have configured := same.settings.trans underway.configured
  rcases same.sending with unmoved | cut
  · refine ⟨configured, fun active => ?_⟩
    rw [unmoved] at active
    obtain ⟨items, place, sends, counted⟩ := underway.stands active
    refine ⟨items, place, ⟨configured, ?_, ?_, ?_⟩, counted⟩
    · rw [same.outgoing]
      exact sends.carried
    · rw [same.outgoing]
      exact sends.declared
    · rw [unmoved]
      exact sends.progress
  · apply idle configured
    rw [cut]

/-- Announced items are sent from the first one on, if there is any. -/
theorem announce (underway : round.Underway role settings) (checked : settings.check = .ok ())
    {items : List Descriptor} (announced : round.announcement role = .ok items) :
    (round.announce role items).Underway role settings := by
  -- The settings stay, and the counters start anew.
  have configured : (round.announce role items).context.settings = settings := by
    rw [← underway.configured]
    cases role <;> rfl
  have sending : (round.announce role items).context.sending =
      { active := decide (0 < UInt32.ofNat items.length) } := by
    cases role <;> rfl
  refine ⟨configured, fun active => ?_⟩
  unfold announcement at announced
  split at announced
  · -- A closing round announces nothing.
    cases announced
    rw [sending] at active
    cases active
  · rw [underway.configured] at announced
    obtain ⟨rfl, counted⟩ := describeAll_ok (Settings.check_ok checked).2.1 announced
    have due : decide (0 < UInt32.ofNat
        ((round.outgoing role).items.map (Parcel.announced settings.batchSize)).length) = true := by
      rw [sending] at active
      exact active
    cases shape : (round.outgoing role).items with
    | nil =>
      rw [shape] at due
      cases due
    | cons parcel later =>
      have inside : (⟨[], parcel, 0, later⟩ : Place).In settings.batchSize
          (round.outgoing role).items := by
        rw [shape]
        exact Place.in_first _ rfl
      rw [← shape]
      refine ⟨_, _, ⟨configured, ?_, ?_, inside, ?_⟩, counted⟩
      · cases role <;> rfl
      · cases role <;> simp only [Round.announce, Message.announce, List.map_map] <;> rfl
      · rw [sending, due, Nat.zero_mul]
        rfl

/-- A header that goes out starts its message at the first place, whether or not it is written. -/
theorem sendHeader (underway : round.Underway role settings) (checked : settings.check = .ok ()) :
    (round.sendHeader role).2.Underway role settings := by
  -- A header that announces nothing valid is not sent, and changes nothing.
  cases announced : round.announcement role with
  | error fault =>
    simp only [Round.sendHeader, announced]
    exact underway
  | ok items =>
    have started := underway.announce checked announced
    rw [sendHeader_eq announced]
    split
    · exact started.undisturbed ⟨rfl, by cases role <;> rfl, .inl rfl⟩
    · exact started

/-- A chunk that goes out brings the message to its next place, or to its end. -/
theorem sendMessage (underway : round.Underway role settings) (checked : settings.check = .ok ())
    (allocates : settings.Allocates) : (round.sendMessage role).2.Underway role settings := by
  -- No message may be due, and then none is sent.
  cases active : round.context.sending.active with
  | false =>
    have context := (outgoing_sendMessage role).context_eq round
    have configured := (congrArg Context.settings context).trans underway.configured
    exact idle configured (idle_sendMessage role round active)
  | true =>
    obtain ⟨items, place, sends, counted⟩ := underway.stands active
    by_cases batch : settings.batchSize < allocationBound
    · obtain ⟨after, sent, _, same, next⟩ := sends.step ⟨checked, allocates, batch⟩ counted
      have configured := same.settings.trans underway.configured
      rw [sent]
      cases place : place.next settings.batchSize with
      | none =>
        rw [place] at next
        exact idle configured next.progress
      | some following =>
        rw [place] at next
        exact ⟨configured, fun _ => ⟨items, following, next, counted⟩⟩
    · -- Without memory for a batch only the item is noted, and the message stays where it is.
      rw [lost_sendMessage role round (underway.configured ▸ Nat.not_lt.mp batch)]
      split
      · exact underway.undisturbed ⟨rfl, by cases role <;> rfl, .inl rfl⟩
      · exact underway

/-- Whatever is done in time keeps the counters of sending in order. -/
theorem perform (underway : round.Underway role settings) (checked : settings.check = .ok ())
    (allocates : settings.Allocates) {heard : Bool} {operation : Operation Parcel}
    (timely : operation.Timely heard round) :
    (round.perform role depot operation).2.1.Underway role settings := by
  -- What happens to the context apart from the counters is no matter.
  have touched : ∀ change : Context → Context,
      (change round.context).settings = round.context.settings →
      (change round.context).sending = round.context.sending →
      (round.onContext change).Underway role settings := by
    intro change configured unmoved
    exact underway.undisturbed ⟨configured, by cases role <;> rfl, .inl unmoved⟩
  cases operation with
  | read phase bytes =>
    simp only [Round.perform, Context.read]
    split <;> exact touched (fun context => { context with intake := _ }) rfl rfl
  | take phase => exact touched (fun context => { context with intake := _ }) rfl rfl
  | flush => exact touched (fun context => { context with output := [] }) rfl rfl
  | raise signal => exact touched (fun context => context.raise signal) rfl rfl
  | release => exact touched Context.release rfl rfl
  | reset => exact idle underway.configured rfl
  | act action =>
    -- Items are replaced only while no message is under way.
    by_cases replaces : action.Replaces
    · have still := (SameSpeaker.apply role action round).settings.trans underway.configured
      exact idle still (Action.idle_applyAll [action] role (timely replaces))
    · exact underway.undisturbed (.apply round replaces)
  | dispatch transit phase inbound =>
    cases transit with
    | send =>
      cases phase with
      -- Sending moves the counters, and stays within their bounds.
      | header => cases inbound <;> exact underway.sendHeader checked
      | message => cases inbound <;> exact underway.sendMessage checked allocates
    | receive =>
      cases inbound with
      | none => cases phase <;> exact underway
      | some inbound =>
        cases phase with
        -- What is received cannot move them.
        | header => exact underway.undisturbed (.receiveHeader round depot inbound.frame)
        | message =>
          exact underway.undisturbed (.receiveMessage round depot inbound.frame inbound.kind)

end Underway

/-- A round that can be reached has its buffers. -/
theorem Reached.allocates {identity : Identity} {settings : Settings} {role : Role} {heard : Bool}
    {round : Round Parcel} {depot : MemoryDepot}
    (reached : Reached identity settings role heard round depot) : settings.Allocates := by
  -- They have been there since the start.
  induction reached with
  | start _ _ allocates => exact allocates
  | step _ _ _ ih | turn _ _ ih | rewind _ _ ih | share _ _ ih => exact ih

/-- In every round that can be reached the counters of both directions are in order. -/
theorem Reached.balanced {identity : Identity} {settings : Settings} {role : Role} {heard : Bool}
    {round : Round Parcel} {depot : MemoryDepot}
    (reached : Reached identity settings role heard round depot)
    (checked : settings.check = .ok ()) :
    round.Tallies role heard depot ∧ round.Underway role settings := by
  -- The induction is on how the round has been reached.
  induction reached with
  | start role depot _ => exact ⟨.nothing rfl rfl, .idle rfl rfl⟩
  | step before operation timely ih =>
    exact ⟨ih.1.perform timely, ih.2.perform checked before.allocates timely⟩
  | turn _ next ih => exact ⟨.nothing rfl rfl, .idle ih.2.configured rfl⟩
  | rewind _ next ih => exact ⟨.nothing rfl rfl, .idle ih.2.configured rfl⟩
  | share _ places ih => exact ⟨ih.1.kept rfl rfl (.inl rfl) places, ih.2⟩

/--
The counters of a round agree with its messages, whatever has been done to it and in which order.

Items are left as long as a message is being received. As long as items are left, the one under way
and those after it are all of them, and it has had fewer chunks than declared. As long as a message
is being sent, the item under way is one of it, fewer of its chunks have been sent than declared, and
the next one starts behind as many batches, within the body.
-/
theorem Reached.counters {identity : Identity} {settings : Settings} {role : Role} {heard : Bool}
    {round : Round Parcel} {depot : MemoryDepot} (checked : settings.check = .ok ())
    (reached : Reached identity settings role heard round depot) :
    let receiving := round.context.receiving
    let incoming := round.incoming role
    let sending := round.context.sending
    let outgoing := round.outgoing role
    (receiving.active = true → 0 < receiving.left) ∧
    (0 < receiving.left →
      receiving.item + receiving.left = incoming.items.length ∧
      incoming.items.length = incoming.inputChunks.length ∧
      ∃ declared, incoming.inputChunks[receiving.item]? = some declared ∧
        receiving.chunk < declared.toNat) ∧
    (sending.active = true →
      sending.item < outgoing.items.length ∧
      outgoing.items.length = outgoing.outputChunks.length ∧
      (∃ declared, outgoing.outputChunks[sending.item]? = some declared ∧
        sending.chunk < declared.toNat) ∧
      sending.offset = sending.chunk * settings.batchSize ∧
      ∃ item, outgoing.items[sending.item]? = some item ∧ sending.offset ≤ item.body.length) := by
  -- The tallies settle receiving, and the place under way settles sending.
  intro receiving incoming sending outgoing
  obtain ⟨tallies, underway⟩ := reached.balanced checked
  refine ⟨fun active => Nat.pos_of_ne_zero (tallies.active active), fun left => ?_,
    fun active => ?_⟩
  · have due := tallies.due (Nat.ne_of_gt left)
    exact ⟨due.items, due.declared, due.chunk⟩
  · obtain ⟨items, place, sends, counted⟩ := underway.stands active
    obtain ⟨inside, stands⟩ := sends.progress
    have here := inside.getElem
    have declared :
        (items.map fun item => UInt32.ofNat (item.chunkCount settings.batchSize))[
          place.before.length]? =
            some (UInt32.ofNat (place.parcel.chunkCount settings.batchSize)) := by
      rw [List.getElem?_map, here, Option.map_some]
    have missing : place.index <
        (UInt32.ofNat (place.parcel.chunkCount settings.batchSize)).toNat := by
      rw [UInt32.toNat_ofNat_of_lt' (counted _ (List.mem_of_getElem? here))]
      exact inside.within
    -- The first chunk starts with the body, and every other one within it.
    have within : place.index * settings.batchSize ≤ place.parcel.body.length := by
      rcases Nat.eq_zero_or_pos place.index with first | later
      · rw [first, Nat.zero_mul]
        exact Nat.zero_le _
      · exact Nat.le_of_lt
          (Descriptor.start_lt (Settings.check_ok checked).2.1 inside.within (.inl later))
    simp only [sending, outgoing, stands, sends.carried, sends.declared]
    exact ⟨(List.getElem?_eq_some_iff.mp here).1, (List.length_map _).symm, ⟨_, declared, missing⟩,
      trivial, _, here, within⟩

/-- A server that has received one chunk of its request, and sent one of its response. -/
theorem Reached.counters_midway :
    let settings : Settings := { batchSize := 2 }
    let identity : Identity := { id := "s" }
    let header := ({ identity := { id := "c" } } : Header).setItems [⟨"k", 3, 2⟩, ⟨"l", 1, 1⟩]
    let request := settings.encoding.encode Header.schema header
    let start : History MemoryDepot Parcel :=
      { round := .ofContext (.initial identity settings), depot := .unrestricted }
    let operations : List (Operation Parcel) :=
      [.act (.items [⟨"r", [5, 6, 7]⟩]), .dispatch .receive .header (some ⟨request, .final⟩),
        .dispatch .receive .message (some ⟨[1, 2], .block⟩), .dispatch .send .header none,
        .dispatch .send .message none]
    let history := start.performAll .server operations
    let receiving := history.round.context.receiving
    let incoming := history.round.incoming .server
    let sending := history.round.context.sending
    let outgoing := history.round.outgoing .server
    settings.check = .ok () ∧ Reached identity settings .server true history.round history.depot ∧
      receiving = { active := true, item := 0, left := 2, chunk := 1 } ∧
      sending = { active := true, item := 0, chunk := 1, offset := 2 } ∧
      0 < receiving.left ∧ receiving.item + receiving.left = incoming.items.length ∧
      incoming.items.length = incoming.inputChunks.length ∧
      (∃ declared, incoming.inputChunks[receiving.item]? = some declared ∧
        receiving.chunk < declared.toNat) ∧
      sending.item < outgoing.items.length ∧
      outgoing.items.length = outgoing.outputChunks.length ∧
      (∃ declared, outgoing.outputChunks[sending.item]? = some declared ∧
        sending.chunk < declared.toNat) ∧
      sending.offset = sending.chunk * settings.batchSize ∧
      ∃ item, outgoing.items[sending.item]? = some item ∧ sending.offset ≤ item.body.length := by
  -- The operations are done one after the other, each in time.
  intro settings identity header request start operations history receiving incoming sending
    outgoing
  have checked : settings.check = .ok () := by decide +kernel
  have fresh : Reached identity settings .server false start.round start.depot := .start _ _ (by decide)
  have timely : TimelyAll .server false start operations :=
    ⟨fun _ => rfl, rfl, trivial, trivial, trivial, trivial⟩
  have reached : Reached identity settings .server true history.round history.depot :=
    fresh.performAll timely
  have received : receiving = { active := true, item := 0, left := 2, chunk := 1 } := by
    decide +kernel
  have sent : sending = { active := true, item := 0, chunk := 1, offset := 2 } := by
    decide +kernel
  obtain ⟨left, due, underway⟩ := reached.counters checked
  have some := left (congrArg Receiving.active received)
  obtain ⟨items, declared, missing⟩ := due some
  obtain ⟨within, announced, unsent, offset, inside⟩ := underway (congrArg Sending.active sent)
  exact ⟨checked, reached, received, sent, some, items, declared, missing, within, announced,
    unsent, offset, inside⟩

end Round

end SentinelRounds
