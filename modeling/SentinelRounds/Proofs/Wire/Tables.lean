import SentinelRounds.Proofs.Wire.Record

/-! Records taken from tables: each field looks up its own entry, and finds what was put there. -/

namespace SentinelRounds

/-- A key that no entry has is not found. -/
theorem lookup_absent {β : Type} {entries : List (String × β)} {key : String}
    (absent : key ∉ entries.map Prod.fst) : entries.lookup key = none := by
  -- An entry with the key would have put it among the keys.
  rw [List.lookup_eq_none_iff]
  intro entry member
  refine bne_iff_ne.mpr fun same => absent ?_
  rw [same]
  exact List.mem_map_of_mem member

namespace Schema

/-- What a field is taken as, given its entry if it has one. -/
def taken {α : Type} (schema : Schema α) (fallback : Option α) (dialect : Tree.Dialect) :
    Option Tree → Option α
  -- A fallback of the field comes before what its type leaves for a missing one.
  | some tree => schema.tree.read dialect tree
  | none => fallback.or schema.absent

namespace Fields

/-- Every field takes its value from the entries of a table. -/
def Holds (dialect : Tree.Dialect) (entries : List (String × Tree)) {ρ σ : Type} :
    Fields ρ σ → ρ → Prop
  | .done, _ => True
  | .field name schema fallback rest, (value, others) =>
    schema.taken fallback dialect (entries.lookup name) = some value ∧
      rest.Holds dialect entries others

/-- Every field would take its value back from what is written of it. -/
def Returns (dialect : Tree.Dialect) {ρ σ : Type} : Fields ρ σ → ρ → Prop
  | .done, _ => True
  | .field _ schema fallback rest, (value, others) =>
    schema.taken fallback dialect (schema.tree.write value) = some value ∧
      rest.Returns dialect others

variable {dialect : Tree.Dialect} {ρ σ : Type}

/-- A record is what its fields take from the entries of a table, each on its own. -/
theorem ofEntries_eq_some_iff {entries : List (String × Tree)} {fields : Fields ρ σ}
    {values : ρ} :
    fields.ofEntries dialect entries = some values ↔ fields.Holds dialect entries values := by
  -- The fields are taken in their order, and each can fail.
  induction fields with
  | done => simp [ofEntries, Holds]
  | field name schema fallback rest ih =>
    obtain ⟨value, others⟩ := values
    have pair (own : Option _) : (own.bind fun value => (rest.ofEntries dialect entries).bind
        fun others => some (value, others)) = some (value, others) ↔
          own = some value ∧ rest.ofEntries dialect entries = some others := by
      simp [Option.bind_eq_some_iff]
    rw [Holds, ← ih]
    -- The field looks up its own entry, and then come the others.
    cases found : entries.lookup name with
    | none =>
      simp only [ofEntries, found]
      exact pair (fallback.or schema.absent)
    | some tree =>
      simp only [ofEntries, found]
      exact pair (schema.tree.read dialect tree)

/-- The keys of a written record are names of its fields, in their order. -/
theorem keys_writeEntries (fields : Fields ρ σ) (values : ρ) :
    ((fields.writeEntries values).map Prod.fst).Sublist fields.names := by
  -- The fields are written in their order.
  induction fields with
  | done => exact List.Sublist.refl []
  | field name schema fallback rest ih =>
    obtain ⟨value, others⟩ := values
    rw [writeEntries, names]
    -- A field that is left out has no entry.
    split
    · exact (ih others).cons_cons name
    · exact (ih others).cons name

/-- Fields take no notice of an entry that has none of their names. -/
theorem Holds.cons {entries : List (String × Tree)} {fields : Fields ρ σ} {values : ρ}
    {key : String} (other : key ∉ fields.names) (tree : Tree)
    (holds : fields.Holds dialect entries values) :
    fields.Holds dialect ((key, tree) :: entries) values := by
  -- No field's name is the key of the entry in front.
  induction fields with
  | done => trivial
  | field name schema fallback rest ih =>
    obtain ⟨value, others⟩ := values
    rw [names, List.mem_cons, not_or] at other
    have apart : (name == key) = false := beq_false_of_ne (Ne.symm other.1)
    refine ⟨?_, ih other.2 holds.2⟩
    rw [List.lookup_cons, apart]
    exact holds.1

/-- A record of fields with different names finds in its own entries what it put there. -/
theorem holds_writeEntries {fields : Fields ρ σ} (distinct : fields.names.Nodup) {values : ρ}
    (returns : fields.Returns dialect values) :
    fields.Holds dialect (fields.writeEntries values) values := by
  -- A field's name is its own, so the entries of the others do not hide its entry.
  induction fields with
  | done => trivial
  | field name schema fallback rest ih =>
    obtain ⟨value, others⟩ := values
    obtain ⟨own, returns⟩ := returns
    rw [names, List.nodup_cons] at distinct
    have later := ih distinct.2 returns
    have absent : (rest.writeEntries others).lookup name = none :=
      lookup_absent fun member => distinct.1 ((rest.keys_writeEntries others).subset member)
    rw [writeEntries]
    -- Either the field's entry stands in front of the others, or nothing is found under its name.
    cases written : schema.tree.write value with
    | some tree =>
      rw [written] at own
      refine ⟨?_, later.cons distinct.1 tree⟩
      rw [List.lookup_cons_self]
      exact own
    | none =>
      rw [written] at own
      refine ⟨?_, later⟩
      rw [absent]
      exact own

end Fields

section Records

variable {α ρ σ : Type} {dialect : Tree.Dialect} {name : String} {fields : Fields ρ σ}
  {build : ρ → α} {view : α → ρ} {entries : List (String × Tree)}

/-- A record is read from a table in which every field has its value. -/
theorem read_record (values : ρ) (holds : fields.Holds dialect entries values) :
    (record name fields build view).tree.read dialect (.table entries) = some (build values) := by
  -- The fields are found together, and the record is built from them.
  have read := Fields.ofEntries_eq_some_iff.mpr holds
  simp only [record, via, Tree.Form.via, Fields.tree, read, Option.map_some]

/-- No record is read from a table in which some field has no value. -/
theorem read_record_eq_none (lacks : ∀ values, ¬fields.Holds dialect entries values) :
    (record name fields build view).tree.read dialect (.table entries) = none := by
  -- The fields together have no value if one of them has none.
  have read : fields.ofEntries dialect entries = none := by
    refine Option.eq_none_iff_forall_ne_some.mpr fun values found => ?_
    exact lacks values (Fields.ofEntries_eq_some_iff.mp found)
  simp only [record, via, Tree.Form.via, Fields.tree, read, Option.map_none]

/-- Records are taken back if their fields are, and have different names. -/
theorem taken_record (distinct : fields.names.Nodup) {value : α}
    (returns : fields.Returns dialect (view value)) (undone : build (view value) = value)
    (fallback : Option α) :
    (record name fields build view).taken fallback dialect
      ((record name fields build view).tree.write value) = some value :=
  (read_record _ (Fields.holds_writeEntries distinct returns)).trans (congrArg some undone)

end Records

section Given

variable {α β : Type} {schema : Schema α} {dialect : Tree.Dialect}

/-- A field whose entry may be left out takes what the entry says, or else its fallback. -/
theorem taken_rel {spells : β → Tree → Prop} {meaning : β → α}
    (reads : ∀ value tree, spells value tree → schema.tree.read dialect tree = some (meaning value))
    (standard : α) {given : Option β} {entry : Option Tree} (rel : Option.Rel spells given entry) :
    schema.taken (some standard) dialect entry = some (given.elim standard meaning) := by
  -- The entry is left out exactly if nothing is given.
  cases rel with
  | none => rfl
  | some said => exact reads _ _ said

/-- A field takes what is written in its entry, or else its fallback. -/
theorem taken_elim {form : β → Tree} {meaning : β → α}
    (reads : ∀ value, schema.tree.read dialect (form value) = some (meaning value))
    (standard : α) (given : Option β) :
    schema.taken (some standard) dialect (given.map form) =
      some (given.elim standard meaning) := by
  -- The entry is left out exactly if nothing is given.
  cases given with
  | none => rfl
  | some value => exact reads value

/-- A field takes the value that is written in its entry, or else its fallback. -/
theorem taken_getD {form : α → Tree}
    (reads : ∀ value, schema.tree.read dialect (form value) = some value) (standard : α)
    (given : Option α) :
    schema.taken (some standard) dialect (given.map form) = some (given.getD standard) := by
  -- The entry is left out exactly if nothing is given.
  cases given with
  | none => rfl
  | some value => exact reads value

end Given

end Schema

end SentinelRounds
