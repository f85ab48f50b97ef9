import SentinelRounds.Wire.Schema
import SentinelRounds.Proofs.Wire.Binary
import SentinelRounds.Proofs.Wire.Json

/-! Records written in either encoding read back as they were, if their fields do. -/

namespace SentinelRounds

namespace Schema

/-- A schema whose encodings restore every value, the binary one if its lengths can be counted. -/
structure Sound {α : Type} (schema : Schema α) : Prop where
  binary : schema.binary.Sound
  json : ∀ value, schema.json.Restores value

namespace Fields

/-- The names of the fields. -/
def names {ρ σ : Type} : Fields ρ σ → List String
  | .done => []
  | .field name _ _ rest => name :: rest.names

/-- Whether every field of a record is restored. -/
def Sound {ρ σ : Type} : Fields ρ σ → Prop
  | .done => True
  | .field _ schema _ rest => schema.Sound ∧ rest.Sound

/-- Where a row ends in a table, a comma or the closing bracket comes next. -/
theorem ends_members (rows : List Bytes) (rest : Bytes) :
    Json.Ends (rows.flatMap (fun row => 0x2C :: row) ++ 0x7D :: rest) := by
  -- A further member stands behind a comma.
  cases rows with
  | nil => exact .inr (.inr rfl)
  | cons row rows => exact .inl rfl

open Json in
/-- The member of a field goes into the slot of that field. -/
theorem reads_readMember {α ρ σ : Type} (name : String) (schema : Schema α)
    (fallback : Option α) (rest : Fields ρ σ) {value : α}
    (restores : schema.json.Restores value) (others : σ) {after : Bytes} (ends : Ends after) :
    Reads ((field name schema fallback rest).readMember name (none, others))
      (0x3A :: (schema.json.print value ++ after)) after (some value, others) := by
  -- The slot is vacant, so the value behind the colon is read.
  have colon : Reads readColon (0x3A :: (schema.json.print value ++ after))
      (schema.json.print value ++ after) () :=
    (Reads.peekSolid rfl _).bind (Reads.skip _ _)
  simp only [readMember, if_true]
  exact colon.bind ((restores.reads after ends).bind (.pure _ after))

open Json in
/-- A name and its value in a table, given what reads the members after them. -/
theorem reads_entry {α ρ σ ρ' σ' : Type} (fields : Fields ρ' σ') (name : String)
    (schema : Schema α) (fallback : Option α) (rest : Fields ρ σ) (lift : Option α × σ → σ')
    {value : α} {result : ρ'} (restores : schema.json.Restores value)
    (member : ∀ slots, fields.readMember name (lift slots) = do
      let slots ← (field name schema fallback rest).readMember name slots
      pure (lift slots))
    {rows : List Bytes} {after : Bytes} {fuel : Nat}
    (others : Reads (fields.readTable fuel false (lift (some value, rest.vacant)))
      (rows.flatMap (fun row => 0x2C :: row) ++ 0x7D :: after) (0x7D :: after) result) :
    Reads (do
        Reader.skip
        let key ← readText
        let slots ← fields.readMember key (lift (none, rest.vacant))
        fields.readTable fuel false slots)
      (printText name ++ 0x3A :: (schema.json.print value ++
        (rows.flatMap (fun row => 0x2C :: row) ++ 0x7D :: after)))
      (0x7D :: after) result := by
  -- The name is looked up among the fields, and its value goes into its slot.
  have slot := reads_readMember name schema fallback rest restores rest.vacant
    (ends_members rows after)
  rw [Form.printText_append]
  refine (Reads.skip _ _).bind ((reads_readText name _).bind ?_)
  rw [member]
  exact (slot.bind (.pure (lift (some value, rest.vacant)) _)).bind others

open Json in
/--
After the first member of a table, the members of the fields that are left are read into slots of
which these fields fill their part.
-/
theorem reads_readTable {ρ σ ρ' σ' : Type} (fields : Fields ρ' σ') (rest : Fields ρ σ)
    (distinct : rest.names.Nodup) (lift : σ → σ') (build : ρ → ρ')
    (member : ∀ key ∈ rest.names, ∀ slots, fields.readMember key (lift slots) = do
      let slots ← rest.readMember key slots
      pure (lift slots))
    (complete : ∀ slots, fields.complete (lift slots) = (rest.complete slots).map build)
    (sound : rest.Sound) (values : ρ) (after : Bytes) {fuel : Nat}
    (enough : rest.count < fuel) :
    Reads (fields.readTable fuel false (lift rest.vacant))
      ((rest.printMembers values).flatMap (fun row => 0x2C :: row) ++ 0x7D :: after)
      (0x7D :: after) (build values) := by
  -- The fields are filled one by one, and those before keep their slots.
  induction rest generalizing fuel with
  | done =>
    obtain ⟨fuel, rfl⟩ : ∃ fewer, fuel = fewer + 1 := ⟨fuel - 1, by omega⟩
    -- The closing bracket ends the table, and all slots are filled.
    have closed : Reads (nextKey false) (0x7D :: after) (0x7D :: after) false :=
      (Reads.peekSolid rfl _).bind (.pure false _)
    refine closed.bind ?_
    simp only [Bool.false_eq_true, if_false, complete]
    exact .pure _ _
  | field name schema fallback rest ih =>
    obtain ⟨value, values⟩ := values
    obtain ⟨first, sound⟩ := sound
    rw [names, List.nodup_cons] at distinct
    rw [count] at enough
    obtain ⟨fuel, rfl⟩ : ∃ fewer, fuel = fewer + 1 := ⟨fuel - 1, by omega⟩
    -- Once this field has its value, the others fill what is left.
    have others := ih distinct.2 (fun slots => lift (some value, slots))
      (fun values => build (value, values)) ?_ ?_ sound values (show rest.count < fuel by omega)
    · have entry := reads_entry fields name schema fallback rest lift (first.json value)
        (member name List.mem_cons_self) others
      -- The comma is passed, and the name behind it begins.
      have comma : ∀ text, Reads (nextKey false) (0x2C :: (printText name ++ text))
          (printText name ++ text) true := by
        intro text
        refine (Reads.peekSolid rfl _).bind ((Reads.skip _ _).bind ?_)
        exact (Reads.peekSolid rfl _).bind (.pure true _)
      rw [printMembers, List.flatMap_cons, List.cons_append, List.cons_append, List.append_assoc,
        List.append_assoc, List.cons_append]
      exact (comma _).bind entry
    · -- A later name is not the name whose slot has been filled.
      intro key later slots
      have differs : key ≠ name := by
        rintro rfl
        exact distinct.1 later
      rw [member key (List.mem_cons_of_mem _ later)]
      simp only [readMember, if_neg differs, bind_assoc, pure_bind]
    · intro slots
      rw [complete]
      simp only [Fields.complete]
      cases rest.complete slots with
      | ok values => rfl
      | error cause => rfl

/-- Members after commas are at least as many bytes as there are fields. -/
theorem count_le_members {ρ σ : Type} (fields : Fields ρ σ) (values : ρ) :
    fields.count ≤ ((fields.printMembers values).flatMap fun row => 0x2C :: row).length := by
  -- Every member has at least its comma.
  induction fields with
  | done => exact Nat.zero_le _
  | field name schema fallback rest ih =>
    obtain ⟨value, values⟩ := values
    have others := ih values
    rw [printMembers, count, List.flatMap_cons, List.length_append, List.length_cons]
    omega

open Json in
/-- A record of fields with different names is restored if all its fields are. -/
theorem restores_json {ρ σ : Type} {fields : Fields ρ σ} (distinct : fields.names.Nodup)
    (sound : fields.Sound) (values : ρ) (expected : String) :
    (fields.json expected).Restores values := by
  -- The opening bracket tells that a record follows.
  refine ⟨⟨_, _, rfl, rfl, by decide⟩, fun rest _ => ?_⟩
  have printed : (fields.json expected).print values ++ rest =
      0x7B :: (printRow (fields.printMembers values) ++ 0x7D :: rest) := by
    simp only [json, List.cons_append, List.append_assoc, List.nil_append]
  have close : Reads endTable (0x7D :: rest) rest () :=
    (Reads.peekSolid rfl _).bind (Reads.skip _ _)
  rw [printed]
  refine (Reads.peekValue rfl _).bind ?_
  rw [if_neg (by decide), if_pos (by decide)]
  refine Reads.placed ((Reads.skip _ _).bind ((Reads.unread _).bind (Reads.enclosed ?_ close)))
  cases fields with
  | done =>
    have closed : Reads (nextKey true) (0x7D :: rest) (0x7D :: rest) false :=
      (Reads.peekSolid rfl _).bind (.pure false _)
    exact closed.bind (.pure () _)
  | field name schema fallback others =>
    obtain ⟨value, values⟩ := values
    obtain ⟨first, sound⟩ := sound
    rw [names, List.nodup_cons] at distinct
    rw [printMembers, Form.printRow_cons, List.append_assoc, List.append_assoc, List.cons_append]
    generalize size : (printText name ++ 0x3A :: (schema.json.print value ++
      ((others.printMembers values).flatMap (fun row => 0x2C :: row) ++ 0x7D :: rest))).length =
      fuel
    -- The fuel is the number of unread bytes, which is at least that of the fields.
    have enough : others.count < fuel := by
      have members := others.count_le_members values
      rw [← size]
      simp only [List.length_append, List.length_cons]
      omega
    -- The first field's slot is filled before the others are looked at.
    have later := reads_readTable (field name schema fallback others) others distinct.2
      (fun slots => (some value, slots)) (fun values => (value, values))
      (fun key later slots => by
        have differs : key ≠ name := by
          rintro rfl
          exact distinct.1 later
        simp only [readMember, if_neg differs])
      (fun slots => rfl) sound values rest enough
    have entry := reads_entry (field name schema fallback others) name schema fallback others id
      (first.json value) (fun slots => (bind_pure _).symm) later
    have begun : ∀ text, Reads (nextKey true) (printText name ++ text) (printText name ++ text)
        true := fun text => (Reads.peekSolid rfl _).bind (.pure true _)
    exact (begun _).bind entry

/-- Fields one after another are restored if each of them is. -/
theorem sound_binary {ρ σ : Type} {fields : Fields ρ σ} (sound : fields.Sound) :
    fields.binary.Sound := by
  -- Each field stands before those after it.
  induction fields with
  | done => exact Binary.Layout.sound_empty
  | field name schema fallback rest ih => exact sound.1.binary.pair (ih sound.2)

end Fields

/-- Numbers of a type with as many values as some bytes can hold are restored. -/
theorem sound_word {α : Type} {width : Nat} {expected : String} {build : Nat → α} {view : α → Nat}
    (fits : ∀ value, view value < Bytes.bound width)
    (narrow : Bytes.bound width ≤ Nat.pow 2 64) (undone : ∀ value, build (view value) = value) :
    ((natural width expected).via build view).Sound where
  binary value _ := (Binary.Layout.restores_natural (fits value)).via (undone value)
  json value := (Json.Form.restores_natural (fits value) narrow expected).via (undone value)

/-- Numbers of four bytes are restored. -/
theorem sound_word32 : word32.Sound :=
  sound_word UInt32.toNat_lt (by decide) fun _ => UInt32.ofNat_toNat

/-- Numbers of eight bytes are restored. -/
theorem sound_word64 : word64.Sound :=
  sound_word UInt64.toNat_lt (by decide) fun _ => UInt64.ofNat_toNat

/-- Truth values are restored. -/
theorem sound_flag : flag.Sound := ⟨Binary.Layout.sound_flag, Json.Form.restores_flag⟩

/-- Texts are restored. -/
theorem sound_text : text.Sound := ⟨Binary.Layout.sound_text, Json.Form.restores_text⟩

/-- Texts that may be missing are restored, because no text is printed like null. -/
theorem sound_optionalText : (optional text).Sound where
  binary := Binary.Layout.sound_text.optional
  json value := Json.Form.restores_optional fun some _ =>
    ⟨Json.Form.restores_text some, by simp [text, Json.Form.text, Json.Form.textAs, Json.printText]⟩

/-- Sequences are restored if their values are, and take space in the binary encoding. -/
theorem Sound.list {α : Type} {item : Schema α} (sound : item.Sound)
    (solid : ∀ value, item.binary.put value ≠ []) : (list item).Sound where
  binary := sound.binary.list solid
  json _ := Json.Form.restores_list fun value _ => sound.json value

/-- Records are restored if their fields are, and have different names. -/
theorem sound_record {α ρ σ : Type} {name : String} {fields : Fields ρ σ} {build : ρ → α}
    {view : α → ρ} (distinct : fields.names.Nodup) (sound : fields.Sound)
    (undone : ∀ value, build (view value) = value) : (record name fields build view).Sound where
  binary := (Fields.sound_binary sound).via undone
  json value := (Fields.restores_json distinct sound _ _).via (undone value)

end Schema

end SentinelRounds
