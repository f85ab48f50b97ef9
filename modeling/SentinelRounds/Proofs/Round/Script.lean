import SentinelRounds.Proofs.Round.Counters
import SentinelRounds.Proofs.Round.Speaker

/-! What one end says in a round: a header, and then chunks of the items that it announces. -/

namespace SentinelRounds

namespace Round

variable {δ ι : Type}

section

variable [Transferable ι]

/-- A chunk that is cut out of an item in batches of some size. -/
inductive Cut (batch : Nat) (item : ι) : Inbound → Prop
  | piece {offset next : Nat} {chunk : Bytes} {kind : Markup} (closes : kind.closes = true)
      (serialized : Transferable.serialize item offset batch = (chunk, some next))
      (short : chunk.length ≤ batch) : Cut batch item ⟨chunk, kind⟩
  /-- An exhausted item still has an empty last chunk. -/
  | exhausted {offset : Nat} (spent : (Transferable.serialize item offset batch).2 = none) :
    Cut batch item ⟨[], .final⟩

/--
Frames that are a header and then chunks of the items that it announces, in the order of the items,
up to the item of the last chunk.
-/
inductive Script (settings : Settings) (items : List ι) : List (Phase × Bytes) → Nat → Prop
  | header {header : Header} (described : describeAll settings.batchSize items = .ok header.items)
      (counted : header.itemsCount = UInt32.ofNat items.length) :
    Script settings items [(.header, headerFrame settings header)] 0
  | chunk {frames : List (Phase × Bytes)} {reached index : Nat} {item : ι} {chunk : Inbound}
      (script : Script settings items frames reached) (onward : reached ≤ index)
      (found : items[index]? = some item) (cut : Cut settings.batchSize item chunk) :
    Script settings items (frames ++ [(.message, chunkFrame settings chunk)]) index

/-- A script without its last frame is a script as well, if that was not its header. -/
theorem Script.init {settings : Settings} {items : List ι} {front : List (Phase × Bytes)}
    {last : Phase × Bytes} {reached : Nat}
    (script : Script settings items (front ++ [last]) reached) :
    front = [] ∨ ∃ earlier, earlier ≤ reached ∧ Script settings items front earlier := by
  -- The last frame is either the header, with nothing before it, or a chunk.
  generalize whole : front ++ [last] = frames at script
  cases script with
  | header =>
    rw [List.append_eq_singleton_iff] at whole
    rcases whole with ⟨empty, _⟩ | ⟨_, none⟩
    · exact .inl empty
    · cases none
  | chunk script onward =>
    obtain ⟨rfl, _⟩ := List.append_inj' whole rfl
    exact .inr ⟨_, onward, script⟩

end

/-- The outgoing items are still the same, and the message does not stand any further back. -/
structure Continues (role : Role) (before after : Round ι) : Prop where
  items : (after.outgoing role).items = (before.outgoing role).items
  onward : before.context.sending.item ≤ after.context.sending.item
  active : after.context.sending.active = true → before.context.sending.active = true

/-- A message that is not disturbed continues. -/
theorem Undisturbed.continues {role : Role} {before after : Round ι}
    (undisturbed : Undisturbed role before after) : Continues role before after := by
  -- Being cut off is all that can happen to it.
  obtain ⟨_, outgoing, sending⟩ := undisturbed
  rcases sending with same | cut
  · exact ⟨congrArg Message.items outgoing, same ▸ Nat.le_refl _, fun active => same ▸ active⟩
  · exact ⟨congrArg Message.items outgoing, cut ▸ Nat.le_refl _, fun active => by
      rw [cut] at active
      cases active⟩

/-- A frame is written behind the output, or the round stays as it was. -/
theorem writeFrame_cases (round : Round ι) (phase : Phase) (content : Bytes) (kind : Markup) :
    (∃ fault, round.writeFrame phase content kind = (.error fault, round)) ∨
    round.writeFrame phase content kind = (.ok kind, round.onContext fun context =>
      { context with
        output := context.output ++ (round.context.settings.writer phase).sealed content kind }) := by
  -- The round is put together from what the writer leaves.
  unfold writeFrame Context.writeFrame
  cases made : (round.context.settings.writer phase).write round.context.output content kind with
  | error fault => exact .inl ⟨_, rfl⟩
  | ok answer =>
    obtain ⟨output, added⟩ := answer
    obtain ⟨_, _, rfl, _⟩ := Writer.write_eq_ok made
    exact .inr rfl

/-- A chunk is written behind the output, or all that is left of it is a note. -/
theorem sendChunk_cases (round : Round ι) (role : Role) (chunk : Bytes) (kind : Markup) :
    (∃ fault, round.sendChunk role chunk kind = (.error fault, round.noteChunk role)) ∨
    ∃ sending : Sending, round.context.sending.item ≤ sending.item ∧
      (sending.active = true → round.context.sending.active = true) ∧
      round.sendChunk role chunk kind = (.ok kind, (round.noteChunk role).onContext fun context =>
        { context with
          output := context.output ++ chunkFrame round.context.settings ⟨chunk, kind⟩
          sending }) := by
  -- Noting a chunk leaves the context alone, so the writer decides.
  have same : (round.noteChunk role).context = round.context := by cases role <;> rfl
  rcases (round.noteChunk role).writeFrame_cases .message chunk kind with ⟨fault, refused⟩ | written
  · simp only [sendChunk, refused]
    exact .inl ⟨fault, rfl⟩
  · -- Only a last chunk moves the message, to its next item or to its end.
    simp only [sendChunk, written, same]
    split
    · have moved := finishSending_eq { round.context with
        output := round.context.output ++ chunkFrame round.context.settings ⟨chunk, kind⟩ }
        (round.outgoing role).items.length
      refine .inr ⟨finished round.context.sending (round.outgoing role).items.length, ?_, ?_, ?_⟩
      · unfold finished
        split
        · exact Nat.le_succ _
        · exact Nat.le_refl _
      · unfold finished
        split
        · exact id
        · exact fun active => by cases active
      · refine congrArg (Prod.mk _) ?_
        cases role <;>
          exact congrArg (fun context => ({ noteChunk round _ with context } : Round ι)) moved
    · exact .inr ⟨round.context.sending, Nat.le_refl _, id, by cases role <;> rfl⟩

variable [Transferable ι]

/--
What sending a chunk comes to: the message continues, and the frame of a chunk of the item under way
is written behind the output, or nothing is.
-/
structure Utters (role : Role) (round : Round ι) (made : Except RoundFault Markup × Round ι) :
    Prop where
  settings : made.2.context.settings = round.context.settings
  continues : Continues role round made.2
  written : (∃ fault, made.1 = .error fault) ∧ made.2.context.output = round.context.output ∨
    ∃ item chunk, (round.outgoing role).items[round.context.sending.item]? = some item ∧
      Cut round.context.settings.batchSize item chunk ∧ made.1 = .ok chunk.kind ∧
      made.2.context.output = round.context.output ++ chunkFrame round.context.settings chunk

namespace Utters

variable {role : Role} {round : Round ι}

/-- Nothing is written where there is nothing to send, whatever is noted in the context. -/
theorem failed (fault : RoundFault) (change : Context → Context)
    (settings : (change round.context).settings = round.context.settings)
    (output : (change round.context).output = round.context.output)
    (sending : (change round.context).sending = round.context.sending) :
    Utters role round (.error fault, round.onContext change) := by
  -- The messages are no part of the context.
  refine ⟨settings, ⟨by cases role <;> rfl, ?_, ?_⟩, .inl ⟨⟨fault, rfl⟩, output⟩⟩
  · exact Nat.le_of_eq (congrArg Sending.item sending.symm)
  · exact fun active => (congrArg Sending.active sending).symm.trans active

/-- A chunk of the item under way is written, unless its frame is refused. -/
theorem sendChunk {item : ι} {chunk : Bytes} {kind : Markup} (change : Context → Context)
    (settings : (change round.context).settings = round.context.settings)
    (output : (change round.context).output = round.context.output)
    (place : (change round.context).sending.item = round.context.sending.item)
    (active : (change round.context).sending.active = round.context.sending.active)
    (found : (round.outgoing role).items[round.context.sending.item]? = some item)
    (cut : Cut round.context.settings.batchSize item ⟨chunk, kind⟩) :
    Utters role round ((round.onContext change).sendChunk role chunk kind) := by
  -- The chunk is cut out of the same items, whatever has been noted before.
  have carried : (((round.onContext change).noteChunk role).outgoing role).items =
      (round.outgoing role).items := by
    cases role <;> rfl
  have noted : ((round.onContext change).noteChunk role).context = change round.context := by
    cases role <;> rfl
  rcases (round.onContext change).sendChunk_cases role chunk kind with
    ⟨fault, refused⟩ | ⟨sending, onward, still, written⟩
  · -- A refused chunk is only noted.
    rw [refused]
    refine ⟨?_, ⟨carried, ?_, fun going => ?_⟩, .inl ⟨⟨fault, rfl⟩, ?_⟩⟩
    · exact (congrArg Context.settings noted).trans settings
    · rw [noted]
      exact Nat.le_of_eq place.symm
    · rw [noted] at going
      exact active.symm.trans going
    · exact (congrArg Context.output noted).trans output
  · rw [written]
    refine ⟨?_, ⟨?_, ?_, fun going => ?_⟩, .inr ⟨item, ⟨chunk, kind⟩, found, cut, rfl, ?_⟩⟩
    · exact (congrArg Context.settings noted).trans settings
    · cases role <;> exact carried
    · exact Nat.le_trans (Nat.le_of_eq place.symm) onward
    · exact active.symm.trans (still going)
    · rw [← output, ← settings]
      exact congrArg (· ++ _) (congrArg Context.output noted)

/-- Sending a message cuts its next chunk out of the item under way. -/
theorem sendMessage (role : Role) (round : Round ι) :
    Utters role round (round.sendMessage role) := by
  -- The cases follow the tests: an item is there, it can be read, and bytes of it are left.
  simp only [Round.sendMessage]
  split
  · exact failed _ id rfl rfl rfl
  · rename_i item found
    split
    · exact failed _ _ rfl rfl rfl
    · split
      · -- The item is exhausted, so its last chunk is empty.
        rename_i serialized
        exact sendChunk (fun context => { context with itemIndex := context.sending.item })
          rfl rfl rfl rfl found (.exhausted (congrArg Prod.snd serialized))
      · rename_i chunk next serialized
        split
        · exact failed _ (fun context => { context with itemIndex := context.sending.item })
            rfl rfl rfl
        · rename_i short
          have closes : Markup.closes (if declaredChunks (round.outgoing role).outputChunks
              round.context.sending.item ≤ round.context.sending.chunk + 1 then .final else .block) =
                true := by
            split <;> rfl
          exact sendChunk (fun context =>
            { context with
              itemIndex := context.sending.item
              sending :=
                { context.sending with offset := next, chunk := context.sending.chunk + 1 } })
            rfl rfl rfl rfl found (.piece closes serialized (Nat.le_of_not_lt short))

end Utters

/-- As many items are announced as there are. -/
theorem length_describeAll {batch : Nat} {items : List ι} {announced : List Descriptor}
    (described : describeAll batch items = .ok announced) : announced.length = items.length := by
  -- The first item that cannot be announced would stop the others.
  induction items generalizing announced with
  | nil =>
    cases described
    rfl
  | cons item items ih =>
    simp only [describeAll] at described
    split at described
    · cases described
    · split at described
      · cases described
      · rename_i others rest
        cases described
        rw [List.length_cons, List.length_cons, ih rest]

/-- What is announced are the outgoing items, or none, and then no message is due. -/
theorem announcement_ok {role : Role} {round : Round ι} {announced : List Descriptor}
    (settled : round.announcement role = .ok announced) :
    ∃ items, describeAll round.context.settings.batchSize items = .ok announced ∧
      ((round.announce role announced).context.sending.active = true →
        (round.outgoing role).items = items) := by
  -- Items are announced by a round that stays open, and else none are.
  unfold announcement at settled
  split at settled
  · -- A closing round announces nothing.
    cases settled
    refine ⟨[], rfl, fun active => ?_⟩
    cases role <;> cases active
  · exact ⟨_, settled, fun _ => rfl⟩

/-- What a round has said so far is a script, and the message stands no further back in it. -/
structure Scripted (role : Role) (settings : Settings) (frames : List (Phase × Bytes))
    (round : Round ι) : Prop where
  configured : round.context.settings = settings
  output : round.context.output = []
  said : frames = [] ∨ ∃ items reached, Script settings items frames reached ∧
    (round.context.sending.active = true →
      (round.outgoing role).items = items ∧ reached ≤ round.context.sending.item)

namespace Scripted

variable {role : Role} {settings : Settings} {frames : List (Phase × Bytes)} {round after : Round ι}

/-- Whatever says nothing and lets the message continue keeps to the script. -/
theorem kept (scripted : round.Scripted role settings frames)
    (configured : after.context.settings = round.context.settings)
    (output : after.context.output = round.context.output)
    (continues : after.context.sending.active = true → Continues role round after) :
    after.Scripted role settings frames := by
  -- What was said stays said, and the bound on the item under way carries over.
  refine ⟨configured.trans scripted.configured, output.trans scripted.output, ?_⟩
  rcases scripted.said with silent | ⟨items, reached, script, underway⟩
  · exact .inl silent
  · refine .inr ⟨items, reached, script, fun active => ?_⟩
    obtain ⟨same, onward, still⟩ := continues active
    obtain ⟨carried, behind⟩ := underway (still active)
    exact ⟨same.trans carried, Nat.le_trans behind onward⟩

/-- So does a change to the context that at most ends the message. -/
theorem ofContext (scripted : round.Scripted role settings frames) (change : Context → Context)
    (configured : (change round.context).settings = round.context.settings)
    (output : (change round.context).output = round.context.output)
    (sending : (change round.context).sending = round.context.sending ∨
      (change round.context).sending = { round.context.sending with active := false }) :
    (round.onContext change).Scripted role settings frames :=
  scripted.kept configured output fun _ =>
    (Undisturbed.ofContext round change configured sending).continues

/-- A frame that does not go out leaves the script that has gone out before it. -/
theorem dropped {last : Phase × Bytes}
    (scripted : round.Scripted role settings (frames ++ [last])) :
    round.Scripted role settings frames := by
  -- Without its last frame, what was said is empty or a script again.
  refine ⟨scripted.configured, scripted.output, ?_⟩
  rcases scripted.said with silent | ⟨items, reached, script, underway⟩
  · exact .inl (List.append_eq_nil_iff.mp silent).1
  · rcases script.init with empty | ⟨earlier, behind, script⟩
    · exact .inl empty
    · exact .inr ⟨items, earlier, script, fun active =>
        ⟨(underway active).1, Nat.le_trans behind (underway active).2⟩⟩

/-- The first header begins the script. -/
theorem sendHeader {kind : Markup} (scripted : round.Scripted role settings [])
    (sent : round.sendHeader role = (.ok kind, after)) :
    (after.onContext fun context => { context with output := [] }).Scripted role settings
      [(.header, after.context.output)] := by
  -- The items that are announced are the ones a message is cut from afterwards.
  obtain ⟨rfl, output, _⟩ := scripted
  cases settled : round.announcement role with
  | error fault =>
    rw [Round.sendHeader, settled] at sent
    cases sent
  | ok announced =>
    rw [sendHeader_eq settled] at sent
    split at sent
    · obtain ⟨_, rfl⟩ := Prod.mk.inj sent
      obtain ⟨items, described, due⟩ := announcement_ok settled
      generalize same : headerFor round.context (round.outgoingHeader role) announced = header
      have first : Script round.context.settings items
          [(.header, headerFrame round.context.settings header)] 0 := by
        subst same
        exact .header described (congrArg UInt32.ofNat (length_describeAll described))
      -- Nothing stands in the output before the header.
      have said : (round.announce role announced).context.output ++
          headerFrame round.context.settings header =
            headerFrame round.context.settings header := by
        cases role <;> exact congrArg (· ++ _) output
      refine ⟨by cases role <;> rfl, rfl, .inr ⟨items, 0, ?_, fun active => ⟨?_, Nat.zero_le _⟩⟩⟩
      · rw [← said] at first
        exact first
      · rw [← due active]
        cases role <;> rfl
    · cases sent

/-- A header that cannot be sent leaves the round silent. -/
theorem sendHeader_error {fault : RoundFault} (scripted : round.Scripted role settings [])
    (failed : round.sendHeader role = (.error fault, after)) : after.Scripted role settings [] := by
  -- Either the items cannot be announced, or the frame of the header is refused.
  obtain ⟨configured, output, _⟩ := scripted
  cases settled : round.announcement role with
  | error fault =>
    rw [Round.sendHeader, settled] at failed
    cases failed
    exact ⟨configured, output, .inl rfl⟩
  | ok announced =>
    rw [sendHeader_eq settled] at failed
    split at failed
    · cases failed
    · -- The items are announced all the same, but nothing is said.
      obtain ⟨_, rfl⟩ := Prod.mk.inj failed
      refine ⟨?_, ?_, .inl rfl⟩
      · cases role <;> exact configured
      · cases role <;> exact output

/-- Behind a header, the next chunk goes on with the script. -/
theorem sendMessage {kind : Markup} (scripted : round.Scripted role settings frames)
    (begun : frames ≠ []) (active : round.context.sending.active = true)
    (sent : round.sendMessage role = (.ok kind, after)) :
    (after.onContext fun context => { context with output := [] }).Scripted role settings
      (frames ++ [(.message, after.context.output)]) := by
  -- A message that is due was announced, so the script has begun and can go on.
  obtain ⟨rfl, output, said⟩ := scripted
  obtain ⟨items, reached, script, underway⟩ := said.resolve_left begun
  obtain ⟨rfl, behind⟩ := underway active
  obtain ⟨configured, continues, written⟩ := Utters.sendMessage role round
  rw [sent] at configured continues written
  rcases written with ⟨⟨fault, failed⟩, _⟩ | ⟨item, chunk, found, cut, _, more⟩
  · cases failed
  · rw [output, List.nil_append] at more
    have more : after.context.output = chunkFrame round.context.settings chunk := more
    rw [more]
    refine ⟨configured, rfl, .inr ⟨_, _, script.chunk behind found cut, fun _ => ⟨?_, ?_⟩⟩⟩
    · rw [← continues.items]
      cases role <;> rfl
    · exact continues.onward

/-- A chunk that cannot be sent leaves the script as it is. -/
theorem sendMessage_error {fault : RoundFault} (scripted : round.Scripted role settings frames)
    (failed : round.sendMessage role = (.error fault, after)) :
    after.Scripted role settings frames := by
  -- A chunk that is written gives no fault, so none was.
  obtain ⟨configured, continues, written⟩ := Utters.sendMessage role round
  rw [failed] at configured continues written
  rcases written with ⟨_, output⟩ | ⟨_, _, _, _, sent, _⟩
  · exact scripted.kept configured output fun _ => continues
  · cases sent

/-- The code around a round keeps to the script if it leaves alone the items that are being sent. -/
theorem applyAll [Reversible ι] {actions : List (Action ι)}
    (scripted : round.Scripted role settings frames)
    (spares : round.context.sending.active = true → ∀ action ∈ actions, ¬ action.Replaces) :
    (Action.applyAll actions role round).Scripted role settings frames := by
  -- The hooks write nothing, and they replace no items while a message is due.
  have same := SameSpeaker.applyAll role actions round
  refine scripted.kept same.settings same.output fun active => ?_
  -- Nothing makes a message due that was not due before.
  cases due : round.context.sending.active with
  | false => cases (Action.idle_applyAll actions role due).symm.trans active
  | true => exact (Undisturbed.applyAll round (spares due)).continues

/-- What comes in does not touch the script. -/
theorem receiveHeader [Depot δ ι] (scripted : round.Scripted role settings frames) (depot : δ)
    (frame : Bytes) :
    (round.receiveHeader depot role frame).1.Scripted role settings frames := by
  -- Receiving leaves the output alone, and can only cut the message off.
  have same := SameSpeaker.receiveHeader role depot frame round
  exact scripted.kept same.settings same.output fun _ =>
    (Undisturbed.receiveHeader round depot frame).continues

/-- Neither does a chunk. -/
theorem receiveMessage [Depot δ ι] (scripted : round.Scripted role settings frames) (depot : δ)
    (frame : Bytes) (kind : Markup) :
    (round.receiveMessage depot role frame kind).1.Scripted role settings frames := by
  -- The same holds for a chunk that comes in.
  have same := SameSpeaker.receiveMessage role depot frame kind round
  exact scripted.kept same.settings same.output fun _ =>
    (Undisturbed.receiveMessage round depot frame kind).continues

end Scripted

end Round

end SentinelRounds
