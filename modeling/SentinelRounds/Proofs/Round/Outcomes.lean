import SentinelRounds.Proofs.Round.Receiving

/-! All that an incoming header or chunk can do to a round. -/

namespace SentinelRounds

namespace Depot

variable {δ ι : Type} [Depot δ ι]

/-- Every item of an announcement is located, or none is. -/
theorem length_locateAll {depot : δ} {identity : Identity} {announced : List Descriptor}
    {items : List ι} (located : locateAll depot identity announced = .ok items) :
    items.length = announced.length := by
  -- The first item that cannot be located would stop the others.
  induction announced generalizing items with
  | nil =>
    cases located
    rfl
  | cons descriptor announced ih =>
    simp only [locateAll] at located
    split at located
    · cases located
    split at located
    · cases located
    · rename_i rest others
      cases located
      rw [List.length_cons, List.length_cons, ih others]

end Depot

namespace Round

variable {δ ι : Type}

section Faults

variable (role : Role) (round : Round ι)

/-- A fault is counted. -/
theorem errors_fault (fault : RoundFault) :
    (round.fault role fault).context.errors = round.context.errors + 1 := by
  cases role <;> rfl

/-- A fault ends both message phases. -/
theorem halted_fault (fault : RoundFault) :
    (round.fault role fault).context.receiving.active = false ∧
      (round.fault role fault).context.sending.active = false := by
  cases role <;> exact ⟨rfl, rfl⟩

/-- After a fault nobody waits for the rest of a message. -/
theorem signals_fault (fault : RoundFault) :
    (round.fault role fault).context.signals = round.context.signals.endMessage := by
  cases role <;> rfl

/-- A denial ends both message phases. -/
theorem halted_deny (reason : String) :
    (round.deny role reason).context.receiving.active = false ∧
      (round.deny role reason).context.sending.active = false := by
  cases role <;> exact ⟨rfl, rfl⟩

/-- After a denial nobody waits for the rest of a message. -/
theorem signals_deny (reason : String) :
    (round.deny role reason).context.signals = round.context.signals.endMessage := by
  cases role <;> rfl

/-- A denial stays visible. -/
theorem denied_deny (reason : String) : (round.deny role reason).context.denied = true := by
  cases role <;> rfl

end Faults

/-- A readable header has been taken over, and the peer that sent it has been admitted. -/
structure Adopts (role : Role) (header : Header) (before after : Round ι) : Prop where
  peer : after.context.peer = some header.identity
  headed : after.incomingHeader role = header
  close : after.context.close = (before.context.close || header.close)
  denied : after.context.denied = false
  errors : after.context.errors = before.context.errors
  receiving : after.context.receiving = before.context.receiving
  sending : after.context.sending = before.context.sending
  signals : after.context.signals = before.context.signals

/--
The items of a header from an admitted peer are expected, unless one cannot be located; if no memory
is enough for it, nobody records the fault.
-/
theorem acceptItems_cases [Depot δ ι] (round : Round ι) (depot : δ) (role : Role)
    (header : Header) :
    let allowed := round.onContext fun context => { context with denied := false }
    let located := Depot.locateAll depot header.identity header.items
    (∃ fault, located = .error fault ∧ fault.isFatal = false ∧
      round.acceptItems depot role header = allowed.fault role fault) ∨
    (∃ fault, located = .error fault ∧ fault.isFatal = true ∧
      round.acceptItems depot role header = allowed) ∨
    ∃ items, located = .ok items ∧
      round.acceptItems depot role header = allowed.expect role header items := by
  -- The items are located up to the first fault, and then it matters which fault that is.
  intro allowed located
  unfold acceptItems
  cases found : Depot.locateAll depot header.identity header.items with
  | error fault =>
    cases fatal : fault.isFatal with
    | false => exact .inl ⟨fault, found, fatal, by simp only [fatal, Bool.false_eq_true, if_false]; rfl⟩
    | true => exact .inr (.inl ⟨fault, found, fatal, by simp only [fatal, if_true]; rfl⟩)
  | ok items => exact .inr (.inr ⟨items, found, rfl⟩)

/-- Only a fault that does not return keeps a header from being received. -/
theorem isFatal_of_fatality [Depot δ ι] {round : Round ι} {depot : δ} {role : Role} {frame : Bytes}
    {fault : RoundFault} (lost : round.fatality depot role frame = some fault) :
    fault.isFatal = true := by
  -- Every other fault of the items is answered in the response.
  unfold fatality at lost
  split at lost
  · cases lost
  split at lost
  · split at lost
    · split at lost
      · rename_i fatal
        exact Option.some.inj lost ▸ fatal
      · cases lost
    · cases lost
  · cases lost

/-- What keeps a readable header of an admitted peer from being received is an item of it. -/
theorem fatality_admitted [Depot δ ι] {round : Round ι} {depot store : δ} {role : Role}
    {frame : Bytes} {header : Header} {notice : Option String}
    (read : readHeader round.context.settings.encoding frame = .ok header)
    (allowed : header.refusal role = none)
    (welcomed : welcome depot header.identity = (.admitted notice, store)) :
    round.fatality depot role frame =
      match Depot.locateAll store header.identity header.items with
      | .error fault => if fault.isFatal then some fault else none
      | .ok _ => none := by
  -- The header is read, not refused, and its peer let in, so its items decide.
  cases located : Depot.locateAll store header.identity header.items with
  | error fault => simp only [fatality, read, allowed, welcomed, located]
  | ok items => simp only [fatality, read, allowed, welcomed, located]

/--
All that a header can do: it is answered with a fault or a denial, or it is taken over and its items
are expected; or it is taken over, and no memory is enough for its items.
-/
theorem receiveHeader_cases [Depot δ ι] (round : Round ι) (depot : δ) (role : Role)
    (frame : Bytes) :
    (∃ (base : Round ι) (fault : RoundFault) (store : δ),
      base.context.errors = round.context.errors ∧
      round.receiveHeader depot role frame = (base.fault role fault, store)) ∨
    (∃ (base : Round ι) (reason : String) (store : δ),
      round.receiveHeader depot role frame = (base.deny role reason, store)) ∨
    (∃ header base store fault, header.check = .ok () ∧ Adopts role header round base ∧
      round.fatality depot role frame = some fault ∧ fault.isFatal = true ∧
      round.receiveHeader depot role frame = (base, store)) ∨
    ∃ header base store, ∃ items : List ι, header.check = .ok () ∧
      Adopts role header round base ∧
      Depot.locateAll store header.identity header.items = .ok items ∧
      round.receiveHeader depot role frame = (base.expect role header items, store) := by
  -- The header is read, then it may be refused, and then the peer is welcomed.
  cases read : readHeader round.context.settings.encoding frame with
  | error fault =>
    exact .inl ⟨round, fault, depot, rfl, by simp only [receiveHeader, read]⟩
  | ok header =>
    have checked := (readHeader_eq_ok_iff.mp read).2
    cases refused : header.refusal role with
    | some reason =>
      exact .inr (.inl ⟨round.adopt role header, reason, depot, by
        simp only [receiveHeader, read, refused]⟩)
    | none =>
      rcases welcomed : welcome depot header.identity with ⟨notice | reason | notice, store⟩
      · -- What the depot says of the peer is appended to the notice, or nothing is.
        obtain ⟨greeted, noticed, received⟩ : ∃ greeted : Round ι,
            (greeted = round.adopt role header ∨
              ∃ line, greeted = (round.adopt role header).appendNotice role line) ∧
            round.receiveHeader depot role frame =
              (greeted.acceptItems store role header, store) := by
          cases notice with
          | none => exact ⟨_, .inl rfl, by simp only [receiveHeader, read, refused, welcomed]⟩
          | some line =>
            exact ⟨_, .inr ⟨line, rfl⟩, by simp only [receiveHeader, read, refused, welcomed]⟩
        have adopts : Adopts role header round
            (greeted.onContext fun context => { context with denied := false }) := by
          rcases noticed with rfl | ⟨notice, rfl⟩ <;>
            cases role <;> exact ⟨rfl, rfl, rfl, rfl, rfl, rfl, rfl, rfl⟩
        -- The items decide what the header comes to.
        rcases greeted.acceptItems_cases store role header with
          ⟨fault, _, _, after⟩ | ⟨fault, located, fatal, after⟩ | ⟨items, located, after⟩
        · exact .inl ⟨_, fault, store, adopts.errors, by rw [received, after]⟩
        · have lost : round.fatality depot role frame = some fault := by
            rw [fatality_admitted read refused welcomed, located]
            exact if_pos fatal
          exact .inr (.inr (.inl ⟨header, _, store, fault, checked, adopts, lost, fatal, by
            rw [received, after]⟩))
        · exact .inr (.inr (.inr ⟨header, _, store, items, checked, adopts, located, by
            rw [received, after]⟩))
      · exact .inr (.inl ⟨_, reason, store, by simp only [receiveHeader, read, refused, welcomed]; rfl⟩)
      · refine .inl ⟨(round.adopt role header).appendNotice role notice,
          .missingTarget header.identity.id, store, ?_, by
            simp only [receiveHeader, read, refused, welcomed]⟩
        cases role <;> rfl

/-- Whatever a header leads to, it is taken over if it can be read. -/
theorem incomingHeader_receiveHeader [Depot δ ι] {round : Round ι} (depot : δ) (role : Role)
    {frame : Bytes} {header : Header}
    (read : readHeader round.context.settings.encoding frame = .ok header) :
    (round.receiveHeader depot role frame).1.incomingHeader role = header := by
  -- Neither a fault nor the items that are expected replace the header.
  have accepted : ∀ (base : Round ι) (store : δ), base.incomingHeader role = header →
      (base.acceptItems store role header).incomingHeader role = header := by
    intro base store taken
    rcases base.acceptItems_cases store role header with
      ⟨fault, _, _, after⟩ | ⟨fault, _, _, after⟩ | ⟨items, _, after⟩
    · rw [after]
      cases role <;> exact taken
    · rw [after]
      cases role <;> exact taken
    · rw [after, expect_eq]
      cases role <;> exact taken
  have taken : (round.adopt role header).incomingHeader role = header := by
    cases role <;> rfl
  -- Each way to end leaves the header that has been adopted.
  simp only [receiveHeader, read]
  split
  · cases role <;> rfl
  split
  · cases role <;> rfl
  · cases role <;> rfl
  · refine accepted _ _ ?_
    cases role <;> rfl
  · exact accepted _ _ taken

/--
A header that is received, announces items and leaves the round open has been taken over, and its
items are expected from the first one on.
-/
theorem receiveHeader_staying [Depot δ ι] {round after : Round ι} {depot store : δ} {role : Role}
    {frame : Bytes} (returned : round.fatality depot role frame = none)
    (received : round.receiveHeader depot role frame = (after, store))
    (staying : after.context.close = false) (announces : (after.incomingHeader role).items ≠ []) :
    let header := after.incomingHeader role
    ∃ (base : Round ι) (items : List ι), header.check = .ok () ∧ Adopts role header round base ∧
      Depot.locateAll store header.identity header.items = .ok items ∧
      after = (base.setIncoming role ((base.incoming role).expect items
        (header.items.map Descriptor.chunks))).onContext fun context =>
          { context with receiving := { active := true, left := header.items.length } } := by
  -- The cases are the answers that a header can get.
  intro header
  rcases round.receiveHeader_cases depot role frame with
    ⟨base, fault, other, _, taken⟩ | ⟨base, reason, other, taken⟩ | ⟨_, _, _, fault, _, _, lost, _⟩ |
      ⟨read, base, other, items, checked, adopts, located, taken⟩
  · -- A fault or a denial would have closed the round.
    obtain ⟨rfl, -⟩ := Prod.mk.inj (received.symm.trans taken)
    cases role <;> cases staying
  · obtain ⟨rfl, -⟩ := Prod.mk.inj (received.symm.trans taken)
    cases role <;> cases staying
  · rw [returned] at lost
    cases lost
  · obtain ⟨expected, rfl⟩ := Prod.mk.inj (received.symm.trans taken)
    rw [expect_eq] at expected
    have headed : header = read := by
      simp only [header, expected]
      rw [← adopts.headed]
      cases role <;> rfl
    have counted : read.itemsCount.toNat = read.items.length :=
      (Header.check_eq_ok_iff.mp checked).counted
    -- There is an item to come, and the round is not closing, so it waits for the item.
    have waits : ¬ (read.itemsCount.toNat = 0 ∨ base.context.close = true) := by
      rintro (empty | closing)
      · have announced : read.items ≠ [] := headed ▸ announces
        exact announced (List.eq_nil_of_length_eq_zero (counted.symm.trans empty))
      · have still : base.context.close = false := by
          rw [expected] at staying
          cases role <;> exact staying
        rw [still] at closing
        cases closing
    simp only [if_neg waits, decide_eq_false waits, Bool.not_false] at expected
    rw [counted] at expected
    rw [headed]
    exact ⟨base, items, checked, adopts, located, expected⟩

/-- A round in which the item at the receive index has been replaced. -/
def hold (role : Role) (item : ι) (round : Round ι) : Round ι :=
  let index := round.context.receiving.item
  (round.setIncoming role { round.incoming role with
    items := (round.incoming role).items.set index item }).onContext fun context =>
      { context with itemIndex := index }

/-- A round in which one more chunk of the item at the receive index counts. -/
def count (role : Role) (round : Round ι) : Round ι :=
  let chunk := round.context.receiving.chunk + 1
  (round.setIncoming role { round.incoming role with currentChunk := chunk }).onContext
    fun context => { context with receiving := { context.receiving with chunk } }

/-- Whether the chunk that was counted last completes its item. -/
def Completes (role : Role) (kind : Markup) (round : Round ι) : Prop :=
  kind = .final ∨ declaredChunks (round.incoming role).inputChunks round.context.receiving.item ≤
    round.context.receiving.chunk

instance (role : Role) (kind : Markup) (round : Round ι) : Decidable (round.Completes role kind) :=
  inferInstanceAs (Decidable (_ ∨ _))

section Chunks

variable [Transferable ι] [Depot δ ι] (round : Round ι) (depot : δ) (role : Role)

/-- A chunk is held by its item, then it counts, and then the item may be complete. -/
theorem absorbChunk_eq_hold (peer : Identity) (item : ι) (frame : Bytes) (kind : Markup) :
    round.absorbChunk depot role peer item frame kind =
      match Transferable.absorb item frame with
      | (.error fault, item) => ((round.hold role item).fault role fault, depot)
      | (.ok (), item) =>
        let round := (round.hold role item).count role
        if round.Completes role kind then
          match Depot.merge depot peer item with
          | (.error fault, depot) => (round.fault role fault, depot)
          | (.ok (), depot) => (round.onContext finishItem, depot)
        else (round, depot) := by
  -- The item takes the chunk in, or it does not.
  rcases absorbed : Transferable.absorb item frame with ⟨_ | _, grown⟩
  · simp only [absorbChunk, absorbed]
    rfl
  · simp only [absorbChunk, absorbed]
    cases role <;> rfl

/--
All that a chunk can do: it is answered with a fault, or it is absorbed by the item at the receive
index; if it is the item's last, the item is merged and counts as received.
-/
theorem receiveMessage_cases (frame : Bytes) (kind : Markup) :
    (∃ (base : Round ι) (fault : RoundFault) (store : δ),
      base.context.errors = round.context.errors ∧
      round.receiveMessage depot role frame kind = (base.fault role fault, store)) ∨
    ∃ peer item grown, round.context.receiving.left ≠ 0 ∧ round.context.peer = some peer ∧
      (round.incoming role).items[round.context.receiving.item]? = some item ∧
      Transferable.absorb item frame = (.ok (), grown) ∧
      let next := (round.hold role grown).count role
      (¬ next.Completes role kind ∧ round.receiveMessage depot role frame kind = (next, depot)) ∨
      (next.Completes role kind ∧ ∃ store, Depot.merge depot peer grown = (.ok (), store) ∧
        round.receiveMessage depot role frame kind = (next.onContext finishItem, store)) := by
  -- The cases are the branches of the operation.
  unfold receiveMessage
  by_cases nothing : round.context.receiving.left = 0
  · exact .inl ⟨round, _, depot, rfl, if_pos nothing⟩
  simp only [if_neg nothing]
  cases known : round.context.peer with
  | none => exact .inl ⟨round, _, depot, rfl, rfl⟩
  | some peer =>
    cases found : (round.incoming role).items[round.context.receiving.item]? with
    | none => exact .inl ⟨round, _, depot, rfl, rfl⟩
    | some item =>
      simp only [absorbChunk_eq_hold]
      rcases absorbed : Transferable.absorb item frame with ⟨fault | _, grown⟩
      · exact .inl ⟨round.hold role grown, fault, depot, by cases role <;> rfl, rfl⟩
      · -- An item that is complete is merged, which the depot may refuse.
        by_cases complete : ((round.hold role grown).count role).Completes role kind
        · simp only [if_pos complete]
          rcases merged : Depot.merge depot peer grown with ⟨fault | _, store⟩
          · exact .inl ⟨_, fault, store, by cases role <;> rfl, rfl⟩
          · exact .inr ⟨peer, item, grown, nothing, rfl, rfl, absorbed,
              .inr ⟨complete, store, merged, rfl⟩⟩
        · exact .inr ⟨peer, item, grown, nothing, rfl, rfl, absorbed,
            .inl ⟨complete, if_neg complete⟩⟩

end Chunks

section Alike

variable {other : Type} [Depot δ ι] [Depot other ι] {alike : δ → other → Prop} (round : Round ι)
  {one : δ} {two : other} (initially : alike one two) (role : Role) (frame : Bytes)
include initially

/-- A header is received alike with depots that welcome its peer and locate its items alike. -/
theorem receiveHeader_alike
    (welcomes : ∀ header, readHeader round.context.settings.encoding frame = .ok header →
      ∃ admission first second, welcome one header.identity = (admission, first) ∧
        welcome two header.identity = (admission, second) ∧ alike first second ∧
        Depot.locateAll second header.identity header.items =
          Depot.locateAll first header.identity header.items) :
    round.fatality two role frame = round.fatality one role frame ∧
      (round.receiveHeader two role frame).1 = (round.receiveHeader one role frame).1 ∧
      alike (round.receiveHeader one role frame).2 (round.receiveHeader two role frame).2 := by
  -- Up to the welcome the depots are not asked.
  simp only [fatality, receiveHeader]
  split
  · exact ⟨rfl, rfl, initially⟩
  rename_i header read
  cases refused : header.refusal role with
  | some reason => exact ⟨rfl, rfl, initially⟩
  | none =>
  -- From here on the depots decide, and they do so alike.
  obtain ⟨admission, first, second, mine, theirs, after, located⟩ := welcomes header read
  have accepted : ∀ base : Round ι,
      base.acceptItems second role header = base.acceptItems first role header := by
    intro base
    simp only [acceptItems, located]
  simp only [mine, theirs]
  cases admission with
  | rejected reason => exact ⟨rfl, rfl, after⟩
  | lost notice => exact ⟨rfl, rfl, after⟩
  | admitted notice =>
    simp only [located]
    cases notice <;> exact ⟨trivial, accepted _, after⟩

/-- A chunk is received alike with depots that merge alike, if an item is awaited. -/
theorem receiveMessage_alike [Transferable ι] (kind : Markup)
    (merges : ∀ peer item, round.context.receiving.left ≠ 0 → round.context.peer = some peer →
      (Depot.merge two peer item).1 = (Depot.merge one peer item).1 ∧
        alike (Depot.merge one peer item).2 (Depot.merge two peer item).2) :
    (round.receiveMessage two role frame kind).1 = (round.receiveMessage one role frame kind).1 ∧
      alike (round.receiveMessage one role frame kind).2
        (round.receiveMessage two role frame kind).2 := by
  -- Up to the merge the depots are not asked.
  simp only [receiveMessage, absorbChunk_eq_hold]
  split
  · exact ⟨rfl, initially⟩
  rename_i awaited
  split
  · exact ⟨rfl, initially⟩
  rename_i peer known
  split
  · exact ⟨rfl, initially⟩
  split
  · exact ⟨rfl, initially⟩
  rename_i grown _
  split
  · -- The item is complete, and both depots merge it or refuse it.
    obtain ⟨same, after⟩ := merges peer grown awaited known
    rcases mine : Depot.merge one peer grown with ⟨answer, first⟩
    rcases theirs : Depot.merge two peer grown with ⟨_, second⟩
    rw [mine, theirs] at same after
    cases same
    cases answer <;> exact ⟨rfl, after⟩
  · exact ⟨rfl, initially⟩

end Alike

/-- A chunk makes no message due that is to be sent. -/
theorem idle_receiveMessage [Transferable ι] [Depot δ ι] (depot : δ) (role : Role)
    (frame : Bytes) (kind : Markup) {round : Round ι}
    (idle : round.context.sending.active = false) :
    (round.receiveMessage depot role frame kind).1.context.sending.active = false := by
  -- A fault halts the round, so it makes nothing due either.
  rcases round.receiveMessage_cases depot role frame kind with
    ⟨base, fault, store, _, received⟩ | ⟨peer, item, grown, _, _, _, _, received⟩
  · rw [received]
    exact (halted_fault role base fault).2
  · -- A chunk moves the incoming message on, whether it completes an item or not.
    rcases received with ⟨_, received⟩ | ⟨_, store, _, received⟩
    · rw [received]
      cases role <;> exact idle
    · simp only [received, onContext, finishItem_eq]
      cases role <;> exact idle

/-- A header that is received makes no message due that is to be sent. -/
theorem idle_receiveHeader [Depot δ ι] (depot : δ) (role : Role) (frame : Bytes)
    {round : Round ι} (idle : round.context.sending.active = false) :
    (round.receiveHeader depot role frame).1.context.sending.active = false := by
  -- A fault and a denial halt the round, so they make nothing due either.
  rcases round.receiveHeader_cases depot role frame with
    ⟨base, fault, store, _, received⟩ | ⟨base, reason, store, received⟩ |
      ⟨header, base, store, fault, _, adopts, _, _, received⟩ |
      ⟨header, base, store, items, _, adopts, _, received⟩
  · rw [received]
    exact (halted_fault role base fault).2
  · rw [received]
    exact (halted_deny role base reason).2
  · rw [received]
    exact (congrArg Sending.active adopts.sending).trans idle
  · simp only [received, expect_eq, onContext]
    have same := congrArg Sending.active adopts.sending
    cases role <;> exact same.trans idle

/-- What each step of receiving a header keeps, the header keeps. -/
theorem receiveHeader_keeps [Depot δ ι] {holds : Round ι → Prop} {role : Role}
    (adopted : ∀ round header, holds round → holds (round.adopt role header))
    (noticed : ∀ round line, holds round → holds (round.appendNotice role line))
    (allowed : ∀ round : Round ι, holds round →
      holds (round.onContext fun context => { context with denied := false }))
    (expected : ∀ round header items, holds round → holds (round.expect role header items))
    (denied : ∀ round reason, holds round → holds (round.deny role reason))
    (faulted : ∀ round fault, holds round → holds (round.fault role fault)) {round : Round ι}
    (initially : holds round) (depot : δ) (frame : Bytes) :
    holds (round.receiveHeader depot role frame).1 := by
  -- The items are expected, or one of them cannot be located.
  have accepted : ∀ (round : Round ι) (store : δ) header, holds round →
      holds (round.acceptItems store role header) := by
    intro round store header before
    rcases round.acceptItems_cases store role header with
      ⟨fault, _, _, after⟩ | ⟨fault, _, _, after⟩ | ⟨items, _, after⟩
    · rw [after]
      exact faulted _ fault (allowed round before)
    · rw [after]
      exact allowed round before
    · rw [after]
      exact expected _ header items (allowed round before)
  simp only [receiveHeader]
  split
  · -- A frame without a header is a fault.
    exact faulted round _ initially
  · rename_i header _
    have taken := adopted round header initially
    split
    · -- A header that contradicts the round is denied.
      exact denied _ _ taken
    split
    · -- The verdict on the peer comes before its items.
      exact denied _ _ taken
    · exact faulted _ _ (noticed _ _ taken)
    · exact accepted _ _ _ (noticed _ _ taken)
    · exact accepted _ _ _ taken

/-- What each step of receiving a chunk keeps, the chunk keeps. -/
theorem receiveMessage_keeps [Transferable ι] [Depot δ ι] {holds : Round ι → Prop} {role : Role}
    (held : ∀ round grown, holds round → holds (round.hold role grown))
    (counted : ∀ round, holds round → holds (round.count role))
    (finished : ∀ round : Round ι, holds round → holds (round.onContext finishItem))
    (faulted : ∀ round fault, holds round → holds (round.fault role fault)) {round : Round ι}
    (initially : holds round) (depot : δ) (frame : Bytes) (kind : Markup) :
    holds (round.receiveMessage depot role frame kind).1 := by
  -- The cases are the branches of the operation.
  simp only [receiveMessage, absorbChunk_eq_hold]
  split
  · exact faulted round _ initially
  split
  · exact faulted round _ initially
  split
  · exact faulted round _ initially
  split
  · exact faulted _ _ (held round _ initially)
  · -- The item has grown, and is merged if it is complete.
    rename_i grown _
    have next := counted _ (held round grown initially)
    split
    · split
      · exact faulted _ _ next
      · exact finished _ next
    · exact next

end Round

end SentinelRounds
