import SentinelRounds.Proofs.Toml.Quoted
import SentinelRounds.Proofs.Toml.Scalar
import SentinelRounds.Proofs.Wire.Tables
import SentinelRounds.Toml.Document

/-! A table of tables that has been written as a settings file is read back from it. -/

namespace SentinelRounds

namespace Toml

open Reader

variable {α β : Type} {text middle rest : List Char}

/-- What comes after a reader starts where that reader has stopped. -/
theorem Reader.bind_eq {first : Reader α} (next : α → Reader β) {a : α}
    (front : first text = some (a, middle)) : (first >>= next) text = next a middle := by
  simp only [Bind.bind, StateT.bind, front, Option.bind_some]

/-- What is read is changed without reading on. -/
theorem Reader.map_eq {first : Reader α} (change : α → β) {a : α}
    (front : first text = some (a, middle)) :
    (change <$> first) text = some (change a, middle) := by
  -- The change is made once the reading is over.
  simp only [Functor.map, StateT.map, front]
  rfl

/-- The next character is looked at. -/
theorem Reader.peek_eq (c : Char) (rest : List Char) :
    peek (c :: rest) = some (some c, c :: rest) := rfl

/-- Where a line may end, no token, no blank and no quote goes on. -/
theorem Reader.isLineEnd_cases {rest : List Char} (ends : isLineEnd rest.head? = true) :
    (∀ c, rest.head? = some c → Scalar.isToken c = false ∧ isBlank c = false) ∧
      rest.head? ≠ some '"' ∧ rest.head? ≠ some '\'' := by
  -- A line ends with the file, with a line break or with a comment.
  unfold isLineEnd at ends
  generalize rest.head? = next at ends
  split at ends
  · exact ⟨nofun, nofun, nofun⟩
  · exact ⟨by rintro c ⟨⟩; decide, by decide, by decide⟩
  · exact ⟨by rintro c ⟨⟩; decide, by decide, by decide⟩
  · exact ⟨by rintro c ⟨⟩; decide, by decide, by decide⟩
  · cases ends

/-- Blanks are passed where there are none. -/
theorem Reader.blanks_eq {text : List Char} (solid : ∀ c, text.head? = some c → isBlank c = false) :
    blanks text = some ((), text) := by
  -- The first character stays, and so do those behind it.
  cases text with
  | nil => rfl
  | cons c text => simp [blanks, solid c rfl]

/-- A character of a class without blanks is no blank. -/
theorem isBlank_of_class {accepts : Char → Bool} (space : accepts ' ' = false)
    (tab : accepts '\t' = false) {c : Char} (accepted : accepts c = true) : isBlank c = false := by
  -- A blank is a space or a tab.
  cases blank : isBlank c with
  | false => rfl
  | true =>
    have either : c = ' ' ∨ c = '\t' := by simpa [isBlank] using blank
    rcases either with rfl | rfl
    · exact accepted.symm.trans space
    · exact accepted.symm.trans tab

/-- A mark that comes next is passed. -/
theorem Reader.mark_eq (c : Char) (rest : List Char) : mark c (c :: rest) = some ((), rest) := by
  simp [mark]

/-- A value that starts with no bracket is read as one without brackets. -/
theorem value_eq_plain (depth : Nat) {c : Char} (list : c ≠ '[') (table : c ≠ '{')
    (rest : List Char) : value depth (c :: rest) = value.plain (c :: rest) := by
  -- The first character decides what kind of value follows.
  cases depth with
  | zero => rfl
  | succ depth =>
    rw [value]
    refine (bind_eq _ (peek_eq c rest)).trans (congrFun ?_ (c :: rest))
    split
    · rename_i same; exact absurd (Option.some.inj same) list
    · rename_i same; exact absurd (Option.some.inj same) table
    · rfl

/-- A value that starts with no quote either is read as a token. -/
theorem plain_eq_scalar {c : Char} (double : c ≠ '"') (single : c ≠ '\'') (rest : List Char) :
    value.plain (c :: rest) = Scalar.read (c :: rest) := by
  -- The first character is neither of the two quotes.
  rw [value.plain]
  refine (bind_eq _ (peek_eq c rest)).trans (congrFun ?_ (c :: rest))
  split
  · rename_i same; exact absurd (Option.some.inj same) double
  · rename_i same; exact absurd (Option.some.inj same) single
  · rfl

/-- A value that starts with a quote is read as a quoted string. -/
theorem plain_eq_text {c : Char} (quote : c = '"' ∨ c = '\'') (rest : List Char) :
    value.plain (c :: rest) = (Tree.text <$> Quoted.read : Reader Tree) (c :: rest) := by
  -- Both quotes are read by the same reader.
  rw [value.plain]
  refine (bind_eq _ (peek_eq c rest)).trans ?_
  rcases quote with rfl | rfl <;> rfl

/-- All of some values are changed if each of them can be. -/
theorem isSome_mapM {α β : Type} {change : α → Option β} {values : List α} :
    (values.mapM change).isSome = true ↔ ∀ value ∈ values, (change value).isSome = true := by
  -- The first value that cannot be changed stops the others.
  induction values with
  | nil => simp
  | cons value values ih =>
    cases first : change value with
    | none => simp [first]
    | some changed =>
      rw [List.mapM_cons, List.forall_mem_cons, ← ih, first]
      simp [Option.isSome_bind]

namespace Document

/-- A token is read as the value that it stands for. -/
theorem value_token (depth : Nat) {token : List Char} {tree : Tree} (some_ : token ≠ [])
    (all : ∀ c ∈ token, Scalar.isToken c = true) (undated : Scalar.isDate token = false)
    (stands : Scalar.ofToken? token = some tree)
    (ends : isLineEnd rest.head? = true) : value depth (token ++ rest) = some (tree, rest) := by
  -- The token stops where the line may end.
  have read := Scalar.read_token all undated stands fun c next => ((isLineEnd_cases ends).1 c next).1
  cases token with
  | nil => exact absurd rfl some_
  | cons c token =>
    -- Neither brackets nor quotes belong to tokens.
    have part := all c List.mem_cons_self
    have other (d : Char) (outside : Scalar.isToken d = false) : c ≠ d := by
      rintro rfl
      rw [part] at outside
      cases outside
    rw [List.cons_append] at read ⊢
    rw [value_eq_plain depth (other '[' rfl) (other '{' rfl),
      plain_eq_scalar (other '"' rfl) (other '\'' rfl), read]

/-- A written value is read back where its line ends. -/
theorem value_written (depth : Nat) {tree : Tree} (written : writeValue tree = some text)
    (ends : isLineEnd rest.head? = true) : value depth (text ++ rest) = some (tree, rest) := by
  -- Only truth values, whole numbers and texts are written.
  unfold writeValue at written
  split at written
  · -- A truth value is one of two words.
    rename_i flag
    cases written
    cases flag with
    | true =>
      exact value_token depth (by decide) (List.all_eq_true.mp (by decide)) rfl rfl ends
    | false =>
      exact value_token depth (by decide) (List.all_eq_true.mp (by decide)) rfl rfl ends
  · -- A number is a token of digits.
    split at written <;> cases written
    rename_i n small
    exact value_token depth (Scalar.written_ne_nil n) (fun c => Scalar.isToken_of_mem_written)
      (Scalar.isDate_written n) (Scalar.ofToken?_written small) ends
  · rename_i value
    cases written
    -- A text is quoted, and its quote tells it from an array and a table.
    have read := Quoted.read_encode value.toList (isLineEnd_cases ends).2
    rw [String.ofList_toList] at read
    obtain ⟨quote, more, shape, quotes⟩ := Quoted.encode_head value.toList
    have bare : quote ≠ '[' ∧ quote ≠ '{' := by rcases quotes with rfl | rfl <;> decide
    rw [shape, List.cons_append] at read ⊢
    rw [value_eq_plain depth bare.1 bare.2, plain_eq_text quotes]
    exact map_eq _ read
  · cases written

/-- A written value starts with no blank. -/
theorem writeValue_head {tree : Tree} (written : writeValue tree = some text) :
    ∃ c more, text = c :: more ∧ isBlank c = false := by
  -- Only truth values, whole numbers and texts are written.
  unfold writeValue at written
  split at written
  · rename_i flag
    cases written
    cases flag with
    | true => exact ⟨_, _, rfl, by decide⟩
    | false => exact ⟨_, _, rfl, by decide⟩
  · split at written <;> cases written
    rename_i n small
    obtain ⟨c, more, shape⟩ := List.exists_cons_of_ne_nil (Scalar.written_ne_nil n)
    have part : c ∈ Scalar.written n := by rw [shape]; exact List.mem_cons_self
    exact ⟨c, more, shape, isBlank_of_class (by decide) (by decide)
      (Scalar.isToken_of_mem_written part)⟩
  · cases written
    obtain ⟨quote, more, shape, quotes⟩ := Quoted.encode_head _
    exact ⟨quote, more, shape, by rcases quotes with rfl | rfl <;> decide⟩
  · cases written

/-- A written key has only characters that stand in keys without quotes, and at least one. -/
theorem writeKey_eq_some_iff {key : String} :
    writeKey key = some text ↔
      text = key.toList ∧ text ≠ [] ∧ ∀ c ∈ text, isBare c = true := by
  -- A key is written as it is, or not at all.
  have shape : writeKey key =
      if key.toList ≠ [] ∧ ∀ c ∈ key.toList, isBare c = true then some key.toList else none := by
    simp only [writeKey]
    by_cases bare : key.toList ≠ [] ∧ ∀ c ∈ key.toList, isBare c = true
    · rw [if_pos bare, if_neg (by simpa using bare)]
    · rw [if_neg bare, if_pos (by simpa [Classical.or_iff_not_imp_left] using bare)]
  rw [shape]
  constructor
  · intro written
    split at written <;> cases written
    rename_i bare
    exact ⟨rfl, bare⟩
  · rintro ⟨rfl, bare⟩
    exact if_pos bare

/-- A character of a key without quotes is none of those with a meaning of their own. -/
theorem ne_of_isBare {c d : Char} (bare : isBare c = true) (other : isBare d = false) : c ≠ d := by
  -- Equal characters would both be bare.
  rintro rfl
  rw [bare] at other
  cases other

/-- A character of a key without quotes is no blank. -/
theorem isBlank_of_isBare {c : Char} (bare : isBare c = true) : isBlank c = false :=
  isBlank_of_class (by decide) (by decide) bare

/-- A written key starts with one of its characters. -/
theorem writeKey_head {key : String} (written : writeKey key = some text) :
    ∃ c more, text = c :: more ∧ isBare c = true := by
  -- A key has at least one character.
  obtain ⟨_, some_, all⟩ := writeKey_eq_some_iff.mp written
  obtain ⟨c, more, rfl⟩ := List.exists_cons_of_ne_nil some_
  exact ⟨c, more, rfl, all c List.mem_cons_self⟩

/-- A written key is one part of a key. -/
theorem keyPart_written {name : String} (written : writeKey name = some text)
    (stops : ∀ c, rest.head? = some c → isBare c = false) :
    keyPart (text ++ rest) = some (name, rest) := by
  -- The characters of the key are taken up to the first that is not bare.
  obtain ⟨same, some_, all⟩ := writeKey_eq_some_iff.mp written
  obtain ⟨taken, dropped⟩ := span_append all stops
  obtain ⟨c, more, shape, bare⟩ := writeKey_head written
  have spanned : span isBare (text ++ rest) = some (text, rest) := by
    simp only [span, taken, dropped]
  have front : peek (text ++ rest) = some (some c, text ++ rest) := by rw [shape]; rfl
  have plain (quote : Char) (other : isBare quote = false) : some c ≠ some quote := fun same =>
    ne_of_isBare bare other (Option.some.inj same)
  rw [keyPart]
  refine (bind_eq _ front).trans ((congrFun ?_ _).trans ((bind_eq (fun part =>
    if part.isEmpty then failure else pure (String.ofList part)) spanned).trans ?_))
  · -- No quote comes next, so the part is what can stand without quotes.
    split
    · rename_i quote; exact absurd quote (plain _ (by decide))
    · rename_i quote; exact absurd quote (plain _ (by decide))
    · rfl
  · rw [if_neg (by simpa using some_), same, String.ofList_toList]
    rfl

/-- A written key is read up to the blanks behind it. -/
theorem key_written (limit : Nat) {name : String} (written : writeKey name = some text)
    (stops : ∀ c, rest.head? = some c → isBare c = false)
    (alone : (rest.dropWhile isBlank).head? ≠ some '.') :
    key (limit + 1) (text ++ rest) = some ([name], rest.dropWhile isBlank) := by
  -- No blank stands in front of the key.
  obtain ⟨c, more, shape, bare⟩ := writeKey_head written
  have solid : blanks (text ++ rest) = some ((), text ++ rest) := by
    refine blanks_eq fun d first => ?_
    rw [shape] at first
    cases first
    exact isBlank_of_isBare bare
  rw [key]
  refine (bind_eq _ solid).trans ((bind_eq _ (keyPart_written written stops)).trans ?_)
  refine (bind_eq _ (show blanks rest = some ((), rest.dropWhile isBlank) from rfl)).trans ?_
  -- No point comes next, so the key has no further part.
  refine (bind_eq _ (show peek (rest.dropWhile isBlank) = some _ from rfl)).trans ?_
  rw [if_neg alone]
  rfl

end Document

/-- A character with which a statement starts: no gap, and no byte order mark. -/
structure Statement.Starts (c : Char) : Prop where
  solid : isBlank c = false
  newline : c ≠ '\n'
  carriage : c ≠ '\r'
  comment : c ≠ '#'
  mark : c ≠ '\uFEFF'

/-- A line is the written form of a statement: it starts with no gap, and is read as the statement
wherever a line may end. -/
structure Statement.Spelled (statement : Statement) (line : List Char) : Prop where
  starts : ∃ c more, line = c :: more ∧ Statement.Starts c
  reads : ∀ rest, isLineEnd rest.head? = true →
    Statement.read (line ++ rest) = some (statement, rest)

namespace Document

/-- The header of a table states that table. -/
theorem spelled_table {name : String} (written : writeKey name = some text) :
    (Statement.table [name]).Spelled (['['] ++ text ++ [']']) := by
  -- The line starts with a bracket, and the key in it is read as its name.
  obtain ⟨c, more, shape, bare⟩ := writeKey_head written
  refine ⟨⟨'[', _, rfl, by decide, by decide, by decide, by decide, by decide⟩, fun rest ends => ?_⟩
  have line : ['['] ++ text ++ [']'] ++ rest = '[' :: (text ++ ']' :: rest) := by simp
  have read : key maxDepth (text ++ ']' :: rest) = some ([name], ']' :: rest) :=
    key_written 78 written (by rintro d ⟨⟩; decide) (by simp [isBlank])
  have front : peek (text ++ ']' :: rest) = some (some c, text ++ ']' :: rest) := by
    rw [shape]
    rfl
  rw [line, Statement.read]
  refine (bind_eq _ (peek_eq _ _)).trans ?_
  rw [if_pos rfl]
  refine (bind_eq _ (show skip ('[' :: (text ++ ']' :: rest)) = some _ from rfl)).trans ?_
  refine (bind_eq _ front).trans ?_
  -- A second bracket would state a row.
  rw [if_neg fun same => ne_of_isBare bare (by decide) (Option.some.inj same)]
  refine (bind_eq _ read).trans ((bind_eq _ (mark_eq ']' rest)).trans ?_)
  rfl

/-- The line of an entry adds that entry. -/
theorem spelled_entry {entry : String × Tree} {name form : List Char}
    (named : writeKey entry.1 = some name) (written : writeValue entry.2 = some form) :
    (Statement.entry [entry.1] entry.2).Spelled (name ++ [' ', '=', ' '] ++ form) := by
  -- The line starts with the key, and the value is behind the equals sign.
  obtain ⟨c, more, shape, bare⟩ := writeKey_head named
  have other (d : Char) (outside : isBare d = false) : c ≠ d := ne_of_isBare bare outside
  refine ⟨⟨c, more ++ ([' ', '=', ' '] ++ form), by simp [shape], isBlank_of_isBare bare,
    other _ (by decide), other _ (by decide), other _ (by decide), other _ (by decide)⟩,
    fun rest ends => ?_⟩
  have line :
      name ++ [' ', '=', ' '] ++ form ++ rest = name ++ ' ' :: '=' :: ' ' :: (form ++ rest) := by
    simp
  -- The key ends at the blank in front of the equals sign.
  have read : key maxDepth (name ++ ' ' :: '=' :: ' ' :: (form ++ rest)) =
      some ([entry.1], '=' :: ' ' :: (form ++ rest)) :=
    key_written 78 named (by rintro d ⟨⟩; decide) (by simp [isBlank])
  have front : peek (name ++ ' ' :: '=' :: ' ' :: (form ++ rest)) =
      some (some c, name ++ ' ' :: '=' :: ' ' :: (form ++ rest)) := by
    rw [shape]
    rfl
  -- One blank stands in front of the value.
  have gap : blanks (' ' :: (form ++ rest)) = some ((), form ++ rest) := by
    obtain ⟨d, more, shape, solid⟩ := writeValue_head written
    have passed : blanks (' ' :: (form ++ rest)) = blanks (form ++ rest) := rfl
    rw [passed, shape]
    exact blanks_eq (by rintro first ⟨⟩; exact solid)
  -- The statement is read part by part.
  rw [line, Statement.read]
  refine (bind_eq _ front).trans ?_
  rw [if_neg fun same => other _ (by decide) (Option.some.inj same)]
  refine (bind_eq _ read).trans ((bind_eq _ (mark_eq '=' _)).trans ((bind_eq _ gap).trans ?_))
  exact (bind_eq _ (value_written maxDepth written ends)).trans rfl

end Document

/-- A text spells statements: each has a line of its own, and other lines are empty. -/
inductive Statement.Spells : List Char → List Statement → Prop
  | nil : Spells [] []
  | gap {text : List Char} {statements : List Statement} (others : Spells text statements) :
      Spells ('\n' :: text) statements
  | line {statement : Statement} {line text : List Char} {statements : List Statement}
      (spelled : statement.Spelled line) (others : Spells text statements) :
      Spells (line ++ '\n' :: text) (statement :: statements)

namespace Statement

/-- An empty line in front says nothing. -/
theorem readAll_newline (fuel : Nat) (text : List Char) :
    readAll fuel ('\n' :: text) = readAll fuel text := by
  -- The line break is passed before a statement is looked for.
  cases fuel with
  | zero => rfl
  | succ fuel =>
    have passed : gaps false ('\n' :: text) = gaps false text := by simp [gaps]
    rw [readAll]
    simp only [bind, StateT.bind, passed]

/-- The statements that a text spells are read from it. -/
theorem Spells.readAll_eq {statements : List Statement} (spells : Spells text statements)
    {fuel : Nat} (enough : text.length < fuel) : readAll fuel text = some (statements, []) := by
  -- Each line takes a unit of fuel, and it has at least one character.
  induction spells generalizing fuel with
  | nil =>
    obtain ⟨fuel, rfl⟩ : ∃ fewer, fuel = fewer + 1 := ⟨fuel - 1, by omega⟩
    rfl
  | gap others ih =>
    -- An empty line is passed over.
    rw [List.length_cons] at enough
    rw [readAll_newline, ih (by omega)]
  | line spelled others ih =>
    rename_i statement line text statements
    rw [List.length_append, List.length_cons] at enough
    obtain ⟨fuel, rfl⟩ : ∃ fewer, fuel = fewer + 1 := ⟨fuel - 1, by omega⟩
    -- The line starts with a solid character, so there is no gap to pass over.
    obtain ⟨c, more, shape, starts⟩ := spelled.starts
    have read := spelled.reads ('\n' :: text) rfl
    have tail := ih (show text.length < fuel by
      have length := congrArg List.length shape
      rw [List.length_cons] at length
      omega)
    have none_ : gaps false (line ++ '\n' :: text) = some ((), line ++ '\n' :: text) := by
      rw [shape]
      simp [gaps, starts.solid, starts.newline, starts.carriage, starts.comment]
    have front : peek (line ++ '\n' :: text) = some (some c, line ++ '\n' :: text) := by
      rw [shape]
      rfl
    have ended : lineEnd ('\n' :: text) = some ((), '\n' :: text) := rfl
    -- The statement is read, then the end of its line, and then the rest.
    rw [readAll]
    refine (bind_eq _ none_).trans ((bind_eq _ front).trans ?_)
    rw [if_neg (by simp)]
    refine (bind_eq _ read).trans ((bind_eq _ ended).trans ?_)
    exact (bind_eq _ ((readAll_newline fuel text).trans tail)).trans rfl

end Statement

namespace Entries

/-- What is looked up behind entries under other keys. -/
theorem lookup_concat {entries : Entries} {key : String} (node : Node)
    (absent : key ∉ entries.map Prod.fst) :
    (entries ++ [(key, node)]).lookup key = some node := by
  -- The entries in front are passed over.
  induction entries with
  | nil => simp
  | cons entry entries ih =>
    obtain ⟨other, held⟩ := entry
    rw [List.map_cons, List.mem_cons, not_or] at absent
    simp [List.lookup_cons, beq_eq_false_iff_ne.mpr absent.1, ih absent.2]

/-- A node under a new key is put behind all others. -/
theorem set_absent {entries : Entries} {key : String} (node : Node)
    (absent : key ∉ entries.map Prod.fst) : set key node entries = entries ++ [(key, node)] := by
  -- The entries in front are kept, for none has the key.
  induction entries with
  | nil => rfl
  | cons entry entries ih =>
    obtain ⟨other, held⟩ := entry
    rw [List.map_cons, List.mem_cons, not_or] at absent
    rw [set, if_neg absent.1, ih absent.2]
    rfl

/-- A node is put in place of the last one if that has its key. -/
theorem set_concat {entries : Entries} {key : String} (held node : Node)
    (absent : key ∉ entries.map Prod.fst) :
    set key node (entries ++ [(key, held)]) = entries ++ [(key, node)] := by
  -- The entries in front are kept, for none has the key.
  induction entries with
  | nil => simp [set]
  | cons entry entries ih =>
    obtain ⟨other, _⟩ := entry
    rw [List.map_cons, List.mem_cons, not_or] at absent
    rw [List.cons_append, set, if_neg absent.1, ih absent.2]
    rfl

end Entries

namespace Draft

/-- A table under a new name is stated behind all others. -/
theorem step_table {draft : Draft} {name : String} (absent : name ∉ draft.entries.map Prod.fst) :
    draft.step (.table [name]) =
      some { entries := draft.entries ++ [(name, .table .stated [])], path := [name] } := by
  -- Nothing is found under the name, so a new table is put there.
  have free := lookup_absent absent
  simp [step, change, Entries.follow, Entries.state, free, Entries.set_absent _ absent]

/-- An entry under a new key is added behind all others of the table at hand. -/
theorem step_entry {before inner : Entries} {name key : String} (tree : Tree)
    (table : name ∉ before.map Prod.fst) (absent : key ∉ inner.map Prod.fst) :
    ({ entries := before ++ [(name, .table .stated inner)], path := [name] } : Draft).step
        (.entry [key] tree) =
      some { entries := before ++ [(name, .table .stated (inner ++ [(key, .value tree)]))]
             path := [name] } := by
  -- The table at hand is the last one, and nothing is found under the key.
  have free := lookup_absent absent
  simp [step, change, Entries.follow, addEntry, Entries.putAt, Entries.put, free,
    Entries.lookup_concat _ table, Entries.set_concat _ _ table, Entries.set_absent _ absent]

/-- The nodes of entries without brackets. -/
def nodes (entries : List (String × Tree)) : Entries :=
  entries.map fun entry => (entry.1, .value entry.2)

/-- Entries under new keys are added to the table at hand in their order. -/
theorem foldlM_entries (before inner : Entries) {name : String} {entries : List (String × Tree)}
    (table : name ∉ before.map Prod.fst) (distinct : (entries.map Prod.fst).Nodup)
    (absent : ∀ key ∈ entries.map Prod.fst, key ∉ inner.map Prod.fst) :
    (entries.map fun entry => Statement.entry [entry.1] entry.2).foldlM step
        { entries := before ++ [(name, .table .stated inner)], path := [name] } =
      some { entries := before ++ [(name, .table .stated (inner ++ nodes entries))]
             path := [name] } := by
  -- Each entry joins those of the table before the next one is added.
  induction entries generalizing inner with
  | nil => simp [nodes]
  | cons entry entries ih =>
    obtain ⟨key, tree⟩ := entry
    rw [List.map_cons, List.nodup_cons] at distinct
    rw [List.map_cons, List.forall_mem_cons] at absent
    have others : ∀ other ∈ entries.map Prod.fst,
        other ∉ (inner ++ [(key, Node.value tree)]).map Prod.fst := by
      intro other member
      have apart : other ≠ key := fun same => distinct.1 (same ▸ member)
      simpa [apart] using absent.2 other member
    rw [List.map_cons, List.foldlM_cons, step_entry tree table absent.1]
    simp only [Option.bind_eq_bind, Option.bind_some]
    rw [ih _ distinct.2 others]
    simp [nodes]

/-- The nodes of tables of entries without brackets. -/
def tableNodes (tables : List (String × List (String × Tree))) : Entries :=
  tables.map fun table => (table.1, .table .stated (nodes table.2))

end Draft

namespace Document

/-- The statements that say some tables. -/
def statements (tables : List (String × List (String × Tree))) : List Statement :=
  tables.flatMap fun table =>
    .table [table.1] :: table.2.map fun entry => .entry [entry.1] entry.2

/-- Tables of entries under different names are read in their order. -/
theorem foldlM_statements (draft : Draft) {tables : List (String × List (String × Tree))}
    (distinct : (tables.map Prod.fst).Nodup)
    (inner : ∀ table ∈ tables, (table.2.map Prod.fst).Nodup)
    (absent : ∀ name ∈ tables.map Prod.fst, name ∉ draft.entries.map Prod.fst) :
    ∃ path, (statements tables).foldlM Draft.step draft =
      some { entries := draft.entries ++ Draft.tableNodes tables, path } := by
  -- Each table is complete before the next one is stated.
  induction tables generalizing draft with
  | nil => exact ⟨draft.path, by simp [statements, Draft.tableNodes]⟩
  | cons table tables ih =>
    obtain ⟨name, entries⟩ := table
    rw [List.map_cons, List.nodup_cons] at distinct
    rw [List.map_cons, List.forall_mem_cons] at absent
    rw [List.forall_mem_cons] at inner
    -- The table is stated, and its entries are filled in.
    have stated := Draft.step_table absent.1
    have filled := Draft.foldlM_entries draft.entries [] absent.1 inner.1
      fun _ _ => List.not_mem_nil
    let next : Draft :=
      { entries := draft.entries ++ [(name, .table .stated (Draft.nodes entries))], path := [name] }
    -- The names of the other tables are still free.
    have others : ∀ other ∈ tables.map Prod.fst, other ∉ next.entries.map Prod.fst := by
      intro other member
      have apart : other ≠ name := fun same => distinct.1 (same ▸ member)
      simpa [next, apart] using absent.2 other member
    obtain ⟨path, read⟩ := ih next distinct.2 inner.2 others
    refine ⟨path, ?_⟩
    -- The statements of one table stand in front of those of the others.
    have whole : statements ((name, entries) :: tables) =
        .table [name] :: ((entries.map fun entry => .entry [entry.1] entry.2) ++
          statements tables) := by simp [statements]
    rw [whole, List.foldlM_cons, stated]
    simp only [Option.bind_eq_bind, Option.bind_some, List.foldlM_append]
    rw [filled]
    simp only [Option.bind_some, List.nil_append]
    rw [read]
    simp [next, Draft.tableNodes]

/-- A table of tables of entries. -/
def ofTables (tables : List (String × List (String × Tree))) : Tree :=
  .table (tables.map fun table => (table.1, .table table.2))

/-- Entries without brackets are what their nodes stand for. -/
theorem trees_nodes (entries : List (String × Tree)) :
    Entries.trees (Draft.nodes entries) = entries := by
  -- Every node is a plain value.
  induction entries with
  | nil => rfl
  | cons entry entries ih =>
    have ih : Entries.trees (Draft.nodes entries) = entries := ih
    rw [Draft.nodes, List.map_cons, Entries.trees, Node.tree]
    exact congrArg (entry :: ·) ih

/-- Tables are what their nodes stand for. -/
theorem trees_tableNodes (tables : List (String × List (String × Tree))) :
    Tree.table (Entries.trees (Draft.tableNodes tables)) = ofTables tables := by
  -- Every node is a table of plain values.
  refine congrArg Tree.table ?_
  induction tables with
  | nil => rfl
  | cons table tables ih =>
    rw [Draft.tableNodes, List.map_cons, Entries.trees, Node.tree, trees_nodes, List.map_cons]
    exact congrArg ((table.1, Tree.table table.2) :: ·) ih

/-- The lines of entries spell them. -/
theorem spells_entries {entries : List (String × Tree)} {lines : List (List Char)}
    (written : entries.mapM writeEntry = some lines) {rest : List Char} {more : List Statement}
    (others : Statement.Spells rest more) :
    Statement.Spells (lines.flatten ++ rest)
      ((entries.map fun entry => .entry [entry.1] entry.2) ++ more) := by
  -- There is one line for each entry.
  induction entries generalizing lines with
  | nil =>
    cases written
    exact others
  | cons entry entries ih =>
    simp only [List.mapM_cons, Option.bind_eq_bind, Option.bind_eq_some_iff, Option.pure_def,
      Option.some.injEq, writeEntry] at written
    obtain ⟨line, ⟨name, named, form, formed, rfl⟩, lines, later, rfl⟩ := written
    have spelled := spelled_entry named formed
    have whole : ((name ++ [' ', '=', ' '] ++ form ++ ['\n']) :: lines).flatten ++ rest =
        name ++ [' ', '=', ' '] ++ form ++ '\n' :: (lines.flatten ++ rest) := by simp
    rw [whole]
    exact .line spelled (ih later)

/-- The block of a table spells its statements. -/
theorem spells_table {table : String × List (String × Tree)} {block : List Char}
    (written : writeTable (table.1, .table table.2) = some block) {rest : List Char}
    {more : List Statement} (others : Statement.Spells rest more) :
    Statement.Spells (block ++ rest) (statements [table] ++ more) := by
  -- The header of the table comes before the lines of its entries.
  simp only [writeTable, Option.bind_eq_bind, Option.bind_eq_some_iff, Option.pure_def,
    Option.some.injEq] at written
  obtain ⟨name, named, lines, later, rfl⟩ := written
  have whole : ['['] ++ name ++ [']', '\n'] ++ lines.flatten ++ rest =
      ['['] ++ name ++ [']'] ++ '\n' :: (lines.flatten ++ rest) := by simp
  have both : statements [table] ++ more = .table [table.1] ::
      ((table.2.map fun entry => .entry [entry.1] entry.2) ++ more) := by simp [statements]
  rw [whole, both]
  exact .line (spelled_table named) (spells_entries later others)

/-- A written file spells the statements of its tables. -/
theorem spells_write {tables : List (String × List (String × Tree))} {text : List Char}
    (written : write (ofTables tables) = some text) :
    Statement.Spells text (statements tables) := by
  -- There is one block for each table.
  simp only [write, ofTables, Option.bind_eq_bind, Option.bind_eq_some_iff, Option.pure_def,
    Option.some.injEq] at written
  obtain ⟨blocks, later, rfl⟩ := written
  induction tables generalizing blocks with
  | nil =>
    cases later
    exact .nil
  | cons table tables ih =>
    simp only [List.map_cons, List.mapM_cons, Option.bind_eq_bind, Option.bind_eq_some_iff,
      Option.pure_def, Option.some.injEq] at later
    obtain ⟨block, first, blocks, later, rfl⟩ := later
    have others := ih blocks later
    have both : statements (table :: tables) = statements [table] ++ statements tables := by
      simp [statements]
    rw [both]
    -- An empty line stands between two tables, and none behind the last.
    cases blocks with
    | nil => simpa [List.intercalate] using spells_table first others
    | cons second blocks =>
      have whole : ['\n'].intercalate (block :: second :: blocks) =
          block ++ '\n' :: ['\n'].intercalate (second :: blocks) := by
        simp [List.intercalate, List.intersperse]
      rw [whole]
      exact spells_table first (.gap others)

/-- A text that spells statements has no byte order mark in front. -/
theorem dropByteOrderMark_spells {statements : List Statement}
    (spells : Statement.Spells text statements) : dropByteOrderMark text = text := by
  -- A text is empty, or it starts with a line break or a statement.
  cases spells with
  | nil => rfl
  | gap others => rfl
  | line spelled others =>
    obtain ⟨c, more, rfl, starts⟩ := spelled.starts
    rw [List.cons_append, dropByteOrderMark]
    exact fun rest same => starts.mark (List.cons.inj same).1

/-- A file that has been written of tables under different names, each with entries under different
names, is read as those tables. -/
theorem read_write {tables : List (String × List (String × Tree))} {text : List Char}
    (distinct : (tables.map Prod.fst).Nodup)
    (inner : ∀ table ∈ tables, (table.2.map Prod.fst).Nodup)
    (written : write (ofTables tables) = some text) : read text = some (ofTables tables) := by
  -- The statements are read from the text, and then the tables are built from them.
  have spells := spells_write written
  have read_ := spells.readAll_eq (Nat.lt_succ_self text.length)
  obtain ⟨path, folded⟩ := foldlM_statements {} distinct inner fun _ _ => List.not_mem_nil
  simp only [read, dropByteOrderMark_spells spells, read_, Option.bind_eq_bind, Option.bind_some,
    folded]
  exact congrArg some (trees_tableNodes tables)

/-- Whole numbers are written up to the largest integer of files. -/
theorem isSome_writeNatural {n : Nat} :
    (writeValue (.integer n)).isSome = true ↔ n < Nat.pow 2 63 := by
  -- The largest integer is one below the bound.
  have limit : Nat.pow 2 63 = 9223372036854775808 := rfl
  have fits : Scalar.fits n = true ↔ n < Nat.pow 2 63 := by
    rw [Scalar.fits, Bool.and_eq_true, decide_eq_true_eq, decide_eq_true_eq, Scalar.limit, limit]
    omega
  rw [← fits, writeValue]
  cases Scalar.fits n <;> simp

/-- An entry is written if its key and its value are. -/
theorem isSome_writeEntry {entry : String × Tree} :
    (writeEntry entry).isSome = true ↔
      (writeKey entry.1).isSome = true ∧ (writeValue entry.2).isSome = true := by
  -- There are four cases, and only in one of them is anything written.
  cases named : writeKey entry.1 <;> cases formed : writeValue entry.2 <;>
    simp [writeEntry, named, formed]

/-- The names of tables and the keys of their entries. -/
def keys (tables : List (String × List (String × Tree))) : List String :=
  tables.flatMap fun table => table.1 :: table.2.map Prod.fst

/-- A file is written of tables under keys without quotes if all their values can be written. -/
theorem isSome_write {tables : List (String × List (String × Tree))}
    (bare : ∀ key ∈ keys tables, (writeKey key).isSome = true) :
    (write (ofTables tables)).isSome = true ↔
      ∀ table ∈ tables, ∀ entry ∈ table.2, (writeValue entry.2).isSome = true := by
  -- A file is written if every table is, and a table if every entry is.
  have whole : (write (ofTables tables)).isSome =
      ((tables.map fun table => (table.1, Tree.table table.2)).mapM writeTable).isSome := by
    simp [write, ofTables, Option.isSome_bind]
  have each (table : String × List (String × Tree)) :
      (writeTable (table.1, .table table.2)).isSome = true ↔ (writeKey table.1).isSome = true ∧
        ∀ entry ∈ table.2, (writeEntry entry).isSome = true := by
    rw [← isSome_mapM]
    cases named : writeKey table.1 <;> simp [writeTable, named, Option.isSome_bind]
  rw [whole, isSome_mapM]
  simp only [List.forall_mem_map, each, isSome_writeEntry]
  simp only [keys, List.forall_mem_flatMap, List.forall_mem_cons, List.forall_mem_map] at bare
  -- No key stands in the way, so the values decide.
  constructor
  · intro written table member entry part
    exact ((written table member).2 entry part).2
  · intro formed table member
    obtain ⟨name, keys⟩ := bare table member
    exact ⟨name, fun entry part => ⟨keys entry part, formed table member entry part⟩⟩

end Document

end Toml

end SentinelRounds
