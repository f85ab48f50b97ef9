import SentinelRounds.Toml.Quoted

/-! Strings in quotes read back as the texts that were quoted, in each of the four ways to quote. -/

namespace SentinelRounds

namespace Toml

namespace Quoted

variable {style : Style} {c : Char} {text rest : List Char}

/-- A character that needs no escape shows as itself, or ends a line. -/
theorem needsEscape_eq_false_iff : needsEscape c = false ↔ isText c = true ∨ c = '\n' := by
  simp only [needsEscape, Bool.and_eq_false_iff, Bool.not_eq_false', bne_eq_false_iff_eq]

/-- A character that shows is neither a carriage return nor a line end. -/
theorem ne_of_isText (shown : isText c = true) : c ≠ '\r' ∧ c ≠ '\n' := by
  constructor <;> rintro rfl <;> cases shown

/-- A character that stands for itself is read as itself. -/
theorem body_plain (quote : c ≠ style.quote) (slash : c = '\\' → style.escapes = false)
    (shown : isText c = true ∨ c = '\n' ∧ style.isLong = true) (rest : List Char) :
    body style .apart (c :: rest) = push c (body style .apart rest) := by
  -- A carriage return is not shown, so the line ends of the reader play no part.
  have notReturn : c ≠ '\r' := by
    rcases shown with shown | ⟨rfl, _⟩
    · exact (ne_of_isText shown).1
    · decide
  have unescaped : ¬ (c = '\\' ∧ style.escapes = true) := by
    rintro ⟨same, escapes⟩
    rw [slash same] at escapes
    cases escapes
  rw [body.eq_def]
  simp [notReturn, quote, unescaped, shown]

/-- An escape of one letter is read as the character that it stands for. -/
theorem body_shortEscape (escapes : style.escapes = true) {letter : Char}
    (stands : shortEscape? letter = some c) (rest : List Char) :
    body style .apart ('\\' :: letter :: rest) = push c (body style .apart rest) := by
  -- Neither blanks nor line ends are letters of escapes.
  have solid : ¬ (isBlank letter = true ∨ letter = '\n' ∨ letter = '\r') := by
    intro blank
    have letters : letter = ' ' ∨ letter = '\t' ∨ letter = '\n' ∨ letter = '\r' := by
      simpa [isBlank, or_assoc] using blank
    rcases letters with rfl | rfl | rfl | rfl <;> cases stands
  have slash : '\\' ≠ style.quote := by cases style <;> decide
  rw [body.eq_def]
  simp [slash, escapes, solid, stands]

/-- A numbered escape is read as the character with that number. -/
theorem body_numberedEscape (escapes : style.escapes = true) {a₁ a₂ a₃ a₄ : Char}
    (stands : numbered? [a₁, a₂, a₃, a₄] = some c) (rest : List Char) :
    body style .apart ('\\' :: 'u' :: a₁ :: a₂ :: a₃ :: a₄ :: rest) =
      push c (body style .apart rest) := by
  -- The letter behind the backslash says that a number follows.
  have slash : '\\' ≠ style.quote := by cases style <;> decide
  have letter : shortEscape? 'u' = none := rfl
  have solid : isBlank 'u' = false := rfl
  rw [body.eq_def]
  simp [slash, escapes, solid, letter, stands]

/-- A small number is read back from its two hexadecimal digits. -/
theorem numbered?_upper : ∀ n < 128,
    numbered? ['0', '0', Digits.upper (n / 16), Digits.upper (n % 16)] = some (Char.ofNat n) := by
  decide

/-- Only characters of small numbers are written by their number. -/
theorem toNat_lt_of_needsEscape (needs : needsEscape c = true) : c.toNat < 128 := by
  -- A character that cannot be shown is a control character.
  simp only [needsEscape, isText, Bool.and_eq_true, Bool.not_eq_true', Bool.or_eq_false_iff,
    Bool.and_eq_false_iff, decide_eq_false_iff_not, bne_eq_false_iff_eq] at needs
  obtain ⟨⟨_, below | rfl⟩, _⟩ := needs
  · -- All that stands below the blank is a control character.
    have below : c.toNat < ' '.toNat := Nat.not_le.mp below
    exact Nat.lt_trans below (by decide)
  · decide

/-- A character other than a quote is escaped, or stands for itself. -/
theorem encodeChar_cases (long : Bool) (c : Char) :
    (∃ letter, encodeChar long c = ['\\', letter] ∧ shortEscape? letter = some c) ∨
    (∃ a₁ a₂ a₃ a₄, encodeChar long c = ['\\', 'u', a₁, a₂, a₃, a₄] ∧
      numbered? [a₁, a₂, a₃, a₄] = some c) ∨
    encodeChar long c = [c] ∧ c ≠ '\\' ∧ c ≠ '\r' ∧
      (isText c = true ∨ c = '\n' ∧ long = true) := by
  -- The cases are those of the writer, in its order.
  unfold encodeChar
  split
  · subst c; exact .inl ⟨'b', rfl, rfl⟩
  split
  · subst c; exact .inl ⟨'t', rfl, rfl⟩
  split
  · rename_i newline
    obtain ⟨rfl, _⟩ := newline
    exact .inl ⟨'n', rfl, rfl⟩
  split
  · subst c; exact .inl ⟨'f', rfl, rfl⟩
  split
  · subst c; exact .inl ⟨'r', rfl, rfl⟩
  split
  · subst c; exact .inl ⟨'\\', rfl, rfl⟩
  split
  · rename_i needs
    have numbered := numbered?_upper c.toNat (toNat_lt_of_needsEscape needs)
    rw [Char.ofNat_toNat] at numbered
    exact .inr (.inl ⟨_, _, _, _, rfl, numbered⟩)
  · rename_i lines _ notReturn notSlash plain
    refine .inr (.inr ⟨rfl, notSlash, notReturn, ?_⟩)
    rcases needsEscape_eq_false_iff.mp (eq_false_of_ne_true plain) with shown | newline
    · exact .inl shown
    · -- A line end that is not escaped stands in a long string.
      cases long with
      | true => exact .inr ⟨newline, rfl⟩
      | false => exact absurd ⟨newline, rfl⟩ lines

/-- A written character is read as itself. -/
theorem body_encodeChar (style : Style) (escapes : style.escapes = true) (quote : c ≠ '"')
    (rest : List Char) :
    body style .apart (encodeChar style.isLong c ++ rest) = push c (body style .apart rest) := by
  -- A character is written by a letter, by its number, or as it is.
  rcases encodeChar_cases style.isLong c with
    ⟨letter, written, stands⟩ | ⟨a₁, a₂, a₃, a₄, written, stands⟩ | ⟨written, slash, _, shown⟩
  · rw [written]
    exact body_shortEscape escapes stands rest
  · rw [written]
    exact body_numberedEscape escapes stands rest
  · rw [written]
    have double : style.quote = '"' := by cases style <;> first | rfl | cases escapes
    exact body_plain (double ▸ quote) (fun same => absurd same slash) shown rest

/-- What is written of a character other than a quote starts neither a quote nor a line unless the
character itself does. -/
theorem encodeChar_head (long : Bool) (c : Char) :
    ∃ first more, encodeChar long c = first :: more ∧ (first = '\\' ∨ first = c ∧ c ≠ '\r') := by
  -- Both kinds of escape start with a backslash.
  rcases encodeChar_cases long c with
    ⟨_, written, _⟩ | ⟨_, _, _, _, written, _⟩ | ⟨written, _, notReturn, _⟩
  · exact ⟨_, _, written, .inl rfl⟩
  · exact ⟨_, _, written, .inl rfl⟩
  · exact ⟨_, _, written, .inr ⟨rfl, notReturn⟩⟩

/-- What is written of a text starts with a quote only if the text does, and that run may go on. -/
theorem encodeBody_head (long : Bool) (run : Nat) (c : Char) (text : List Char)
    (stops : c = '"' → (if long then 2 else 0) ≤ run) :
    ∃ first more, encodeBody long run (c :: text) = first :: more ∧ first ≠ '"' := by
  -- A quote is escaped once its run is as long as it may be.
  rw [encodeBody]
  split
  · rename_i quote
    rw [if_neg (Nat.not_lt.mpr (stops quote))]
    exact ⟨_, _, rfl, by decide⟩
  · rename_i other
    obtain ⟨first, more, written, head⟩ := encodeChar_head long c
    rw [written]
    refine ⟨first, _, rfl, ?_⟩
    rcases head with rfl | ⟨rfl, _⟩
    · decide
    · exact other

/-- A text in a short string with escapes is read up to the closing quote. -/
theorem body_basic (run : Nat) (text rest : List Char) :
    body .basic .apart (encodeBody false run text ++ '"' :: rest) = some (text, rest) := by
  -- The characters are read back one by one, whatever run has come before.
  induction text generalizing run with
  | nil =>
    unfold body encodeBody
    simp [Style.quote, Style.isLong]
  | cons c text ih =>
    rw [encodeBody]
    split
    · -- A quote of the text never closes the string, for it is escaped.
      subst c
      simp only [Bool.false_eq_true, if_false, Nat.not_lt_zero, List.cons_append]
      rw [body_shortEscape rfl rfl, ih]
      rfl
    · rename_i quote
      have read := body_encodeChar .basic rfl quote (encodeBody false 0 text ++ '"' :: rest)
      rw [ih] at read
      rw [List.append_assoc]
      exact read

/-- A text without its quote is read from a short literal string up to the closing quote. -/
theorem body_literal (shown : ∀ c ∈ text, isText c = true) (unquoted : '\'' ∉ text)
    (rest : List Char) : body .literal .apart (text ++ '\'' :: rest) = some (text, rest) := by
  -- Every character stands for itself.
  induction text with
  | nil =>
    unfold body
    simp [Style.quote, Style.isLong]
  | cons c text ih =>
    obtain ⟨first, others⟩ := List.forall_mem_cons.mp shown
    have quote : c ≠ '\'' := fun same => unquoted (same ▸ List.mem_cons_self)
    rw [List.cons_append, body_plain quote (fun _ => rfl) (.inl first),
      ih others fun member => unquoted (List.mem_cons_of_mem _ member)]
    rfl

section

variable {quote : Char} (long : style.isLong = true) (made : style.quote = quote)
  (apart : rest.head? ≠ some quote)
include long made

/-- In a long string a quote belongs to the text unless two more follow it. -/
theorem body_quote (more : List Char) (open_ : more.take 2 ≠ [quote, quote]) :
    body style .apart (quote :: more) = push quote (body style .apart more) := by
  -- What follows the quote does not close the string.
  have notReturn : quote ≠ '\r' := by
    rw [← made]
    cases style <;> decide
  rw [body.eq_def]
  simp [notReturn, made, long, open_]

include apart in
/-- Up to two quotes right before the three that close a long string belong to its text. -/
theorem body_close (count : Nat) (few : count ≤ 2) :
    body style .apart (List.replicate count quote ++ quote :: quote :: quote :: rest) =
      some (List.replicate count quote, rest) := by
  -- The quote is not the character that is passed over at a line end.
  have notReturn : quote ≠ '\r' := by
    rw [← made]
    cases style <;> decide
  -- What follows the closing quotes does not lengthen their run.
  have stops : ∀ n, (rest.take n).takeWhile (· = quote) = [] := by
    intro n
    cases rest with
    | nil => simp
    | cons c rest =>
      have other : c ≠ quote := fun same => apart (congrArg some same)
      cases n <;> simp [other]
  obtain rfl | rfl | rfl : count = 0 ∨ count = 1 ∨ count = 2 := by omega
  all_goals
    unfold body
    simp [notReturn, made, long, close, stops]

end

/-- A quote that is not escaped has no two more behind it unless it is one of the last two. -/
theorem encodeBody_opens {run : Nat} (room : run < 2) {text : List Char} (more : text ≠ [])
    (last : ¬ (run = 0 ∧ text = ['"'])) (tail : List Char) :
    (encodeBody true (run + 1) text ++ tail).take 2 ≠ ['"', '"'] := by
  -- The text goes on behind the quote, so its next character decides.
  cases text with
  | nil => exact absurd rfl more
  | cons c text =>
    by_cases quoted : c = '"' ∧ run = 0
    · -- The quote at hand is not escaped either, so what follows it counts.
      obtain ⟨rfl, rfl⟩ := quoted
      cases text with
      | nil => exact absurd ⟨rfl, rfl⟩ last
      | cons d text =>
        obtain ⟨first, others, written, other⟩ :=
          encodeBody_head true 2 d text fun _ => Nat.le_refl 2
        rw [encodeBody, if_pos rfl, if_pos (by decide), written]
        simp [other]
    · have stops : c = '"' → 2 ≤ run + 1 := by
        intro quote
        have later : run ≠ 0 := fun start => quoted ⟨quote, start⟩
        omega
      obtain ⟨first, others, written, other⟩ := encodeBody_head true (run + 1) c text stops
      rw [written]
      simp [other]

/-- A text in a long string with escapes is read up to the three closing quotes. -/
theorem body_longBasic (run : Nat) (text : List Char) {rest : List Char}
    (apart : rest.head? ≠ some '"') :
    body .longBasic .apart (encodeBody true run text ++ '"' :: '"' :: '"' :: rest) =
      some (text, rest) := by
  -- At the end of the text the string is closed.
  have closing := @body_close .longBasic rest '"' rfl rfl apart
  induction text generalizing run with
  | nil => exact closing 0 (by decide)
  | cons c text ih =>
    by_cases quote : c = '"'
    · subst quote
      by_cases room : run < 2
      · rw [encodeBody, if_pos rfl, if_pos (show run < if true then 2 else 0 from room)]
        -- A quote that is not escaped is one of the last two, or it is read as itself.
        by_cases one : text = []
        · subst one
          exact closing 1 (by decide)
        by_cases two : run = 0 ∧ text = ['"']
        · obtain ⟨rfl, rfl⟩ := two
          exact closing 2 (by decide)
        · have opens := encodeBody_opens room one two ('"' :: '"' :: '"' :: rest)
          have read := @body_quote .longBasic '"' rfl rfl _ opens
          rw [ih] at read
          exact read
      · -- The third quote in a row is escaped.
        rw [encodeBody, if_pos rfl, if_neg (show ¬ run < if true then 2 else 0 from room),
          List.cons_append, List.cons_append, body_shortEscape rfl rfl, ih]
        rfl
    · have read := body_encodeChar .longBasic rfl quote
        (encodeBody true 0 text ++ '"' :: '"' :: '"' :: rest)
      rw [ih] at read
      rw [encodeBody, if_neg quote, List.append_assoc]
      exact read

/-- A text without three quotes in a row is read from a long literal string up to the three that
close it. -/
theorem body_longLiteral {text : List Char} (shown : ∀ c ∈ text, isText c = true ∨ c = '\n')
    (broken : ¬ List.replicate 3 '\'' <:+: text) {rest : List Char}
    (apart : rest.head? ≠ some '\'') :
    body .longLiteral .apart (text ++ '\'' :: '\'' :: '\'' :: rest) = some (text, rest) := by
  -- At the end of the text the string is closed.
  have closing := @body_close .longLiteral rest '\'' rfl rfl apart
  induction text with
  | nil => exact closing 0 (by decide)
  | cons c text ih =>
    obtain ⟨first, others⟩ := List.forall_mem_cons.mp shown
    have ih := ih others fun inside => broken (inside.trans (List.suffix_cons c text).isInfix)
    by_cases quote : c = '\''
    · subst quote
      -- A quote is one of the last two of the text, or something else follows its run.
      by_cases one : text = []
      · subst one
        exact closing 1 (by decide)
      by_cases two : text = ['\'']
      · subst two
        exact closing 2 (by decide)
      · have opens : (text ++ '\'' :: '\'' :: '\'' :: rest).take 2 ≠ ['\'', '\''] := by
          intro more
          match text, one, two with
          | [_], _, two => simp_all
          | d :: e :: text, _, _ =>
            obtain ⟨rfl, rfl⟩ : d = '\'' ∧ e = '\'' := by simpa using more
            exact broken ⟨[], text, rfl⟩
        have read := @body_quote .longLiteral '\'' rfl rfl _ opens
        rw [ih] at read
        exact read
    · rw [List.cons_append, body_plain quote (fun _ => rfl) (first.imp_right (⟨·, rfl⟩)), ih]
      rfl

/-- One more character counted: the longest run of a quote so far, and the run at hand. -/
def countRun (quote : Char) (counts : Nat × Nat) (c : Char) : Nat × Nat :=
  let run := if c = quote then counts.2 + 1 else 0
  (max counts.1 run, run)

/-- Counting never forgets a longer run. -/
theorem le_foldl_countRun (quote : Char) (text : List Char) (counts : Nat × Nat) :
    counts.1 ≤ (text.foldl (countRun quote) counts).1 := by
  -- Every step keeps the longer of two runs.
  induction text generalizing counts with
  | nil => exact Nat.le_refl _
  | cons c text ih => exact Nat.le_trans (Nat.le_max_left _ _) (ih (countRun quote counts c))

/-- The run at hand is one of those that are compared. -/
theorem foldl_countRun_le (quote : Char) (text : List Char) {counts : Nat × Nat}
    (compared : counts.2 ≤ counts.1) :
    (text.foldl (countRun quote) counts).2 ≤ (text.foldl (countRun quote) counts).1 := by
  -- Every step compares the run that it lengthens.
  induction text generalizing counts with
  | nil => exact compared
  | cons c text ih => exact ih (Nat.le_max_right _ _)

/-- Quotes in a row lengthen the run at hand by as many as they are. -/
theorem le_foldl_countRun_replicate (quote : Char) (count : Nat) {counts : Nat × Nat}
    (compared : counts.2 ≤ counts.1) :
    counts.2 + count ≤ ((List.replicate count quote).foldl (countRun quote) counts).1 := by
  -- Each quote adds one to the run.
  induction count generalizing counts with
  | zero => exact compared
  | succ count ih =>
    have longer : (countRun quote counts quote).2 = counts.2 + 1 := if_pos rfl
    have later := @ih (countRun quote counts quote) (Nat.le_max_right _ _)
    rw [longer] at later
    rw [List.replicate_succ, List.foldl_cons]
    omega

/-- A text has no more quotes in a row than its longest run. -/
theorem not_infix_of_longestRun_lt {quote : Char} {count : Nat} {text : List Char}
    (short : longestRun quote text < count) : ¬ List.replicate count quote <:+: text := by
  -- The quotes in a row are counted between what is before and after them.
  rintro ⟨before, after, rfl⟩
  have counted : longestRun quote (before ++ List.replicate count quote ++ after) =
      ((before ++ List.replicate count quote ++ after).foldl (countRun quote) (0, 0)).1 := rfl
  rw [counted, List.foldl_append, List.foldl_append] at short
  have compared := foldl_countRun_le quote before (Nat.le_refl (0, 0).2)
  have grown := le_foldl_countRun_replicate quote count compared
  have kept := le_foldl_countRun quote after
    ((List.replicate count quote).foldl (countRun quote) (before.foldl (countRun quote) (0, 0)))
  omega

end Quoted

namespace Style

open Toml.Quoted

/-- What a way to quote that has no escapes asks of a text. -/
def Suits : Style → List Char → Prop
  | .basic, _ | .longBasic, _ => True
  | .literal, text => (∀ c ∈ text, isText c = true) ∧ '\'' ∉ text
  | .longLiteral, text =>
    (∀ c ∈ text, isText c = true ∨ c = '\n') ∧ ¬ List.replicate 3 '\'' <:+: text

/-- A text is quoted in a way that suits it. -/
theorem suits_ofText (text : List Char) : (ofText text).Suits text := by
  -- A text that needs no escape has only characters that can be shown.
  have plain (uncoded : (!text.any needsEscape) = true) :
      ∀ c ∈ text, isText c = true ∨ c = '\n' := by
    intro c member
    rw [Bool.not_eq_true', List.any_eq_false] at uncoded
    exact needsEscape_eq_false_iff.mp (eq_false_of_ne_true (uncoded c member))
  -- The ways are those that are tried, in that order.
  unfold ofText
  simp only
  split
  · trivial
  split
  · rename_i suits
    simp only [Bool.and_eq_true, beq_iff_eq] at suits
    obtain ⟨⟨uncoded, singles⟩, lines⟩ := suits
    have lines : '\n' ∉ text := by simpa using lines
    refine ⟨fun c member => ?_, fun member => ?_⟩
    · refine (plain uncoded c member).resolve_right fun newline => ?_
      exact lines (newline ▸ member)
    · -- A single quote would be a run of one.
      have broken := not_infix_of_longestRun_lt (show longestRun '\'' text < 1 by omega)
      obtain ⟨before, after, rfl⟩ := List.append_of_mem member
      exact broken ⟨before, after, by simp⟩
  split
  · trivial
  split
  · rename_i suits
    simp only [Bool.and_eq_true, decide_eq_true_eq] at suits
    obtain ⟨uncoded, singles⟩ := suits
    exact ⟨plain uncoded, not_infix_of_longestRun_lt (by omega)⟩
  split <;> trivial

/-- A line end is dropped only where one stands. -/
theorem opening?.dropLineEnd_of_head {first : Char} (newline : first ≠ '\n') (return_ : first ≠ '\r')
    (more : List Char) : opening?.dropLineEnd (first :: more) = first :: more := by
  -- No case of a line end applies.
  unfold opening?.dropLineEnd
  split <;> simp_all

/-- A single quote opens a short string. -/
theorem opening?_short {style : Style} (short : style.isLong = false) {more : List Char}
    (single : more.take 2 ≠ [style.quote, style.quote]) :
    opening? (style.quote :: more) = some (style, more) := by
  -- A long string is opened by more than one quote.
  cases style with
  | basic | literal =>
    -- Three quotes would have two among what follows the first.
    simp only [quote]
    unfold opening?
    split <;> simp_all [quote]
  | longBasic | longLiteral => cases short

/-- Three quotes open a long string. -/
theorem opening?_long {style : Style} (long : style.isLong = true) (more : List Char) :
    opening? (style.delimiter ++ more) = some (style, opening?.dropLineEnd more) := by
  -- A short string is opened by one quote.
  cases style with
  | basic | literal => cases long
  | longBasic | longLiteral => rfl

end Style

namespace Quoted

variable {text : List Char}

/-- What stands between the quotes of a text. -/
def content (style : Style) (text : List Char) : List Char :=
  if style.escapes then encodeBody style.isLong 0 text else text

/-- What stands between the quotes is read as the text. -/
theorem body_content {style : Style} (suits : style.Suits text) {rest : List Char}
    (apart : rest.head? ≠ some '"' ∧ rest.head? ≠ some '\'') :
    body style .apart (content style text ++ (style.delimiter ++ rest)) = some (text, rest) := by
  -- Each of the four styles has its own way to go on.
  cases style with
  | basic => exact body_basic 0 text rest
  | literal => exact body_literal suits.1 suits.2 rest
  | longBasic => exact body_longBasic 0 text apart.1
  | longLiteral => exact body_longLiteral suits.1 suits.2 apart.2

/-- A short string does not start with two quotes more, for it has none inside. -/
theorem content_short {style : Style} (short : style.isLong = false) (suits : style.Suits text)
    {rest : List Char} (apart : rest.head? ≠ some style.quote) :
    (content style text ++ (style.delimiter ++ rest)).take 2 ≠ [style.quote, style.quote] := by
  -- A short string is closed by a single quote.
  have closed : style.delimiter = [style.quote] := by simp [Style.delimiter, short]
  cases text with
  | nil =>
    -- An empty string has its closing quote alone.
    have empty : content style [] = [] := by simp [content, encodeBody]
    rw [empty, closed]
    intro same
    cases rest with
    | nil => cases same
    | cons c rest => exact apart (congrArg some (List.cons.inj (List.cons.inj same).2).1)
  | cons c text =>
    -- The first character is not a quote, or it is escaped.
    have head : ∃ first more, content style (c :: text) = first :: more ∧ first ≠ style.quote := by
      cases style with
      | basic => exact encodeBody_head false 0 c text fun _ => Nat.le_refl 0
      | literal =>
        exact ⟨c, text, rfl, fun same => suits.2 (same ▸ List.mem_cons_self)⟩
      | longBasic | longLiteral => cases short
    obtain ⟨first, more, written, other⟩ := head
    rw [written]
    intro same
    exact other (List.cons.inj same).1

/-- A long string of one line starts with no line end, for it has none inside. -/
theorem content_long {style : Style} (long : style.isLong = true) (suits : style.Suits text)
    (lines : '\n' ∉ text) (rest : List Char) :
    ∃ first more, content style text ++ (style.delimiter ++ rest) = first :: more ∧
      first ≠ '\n' ∧ first ≠ '\r' := by
  -- Either the text has a first character, or the closing quotes come at once.
  cases text with
  | nil =>
    -- An empty string has its closing quotes alone.
    refine ⟨style.quote, style.quote :: style.quote :: rest, ?_, ?_⟩
    · simp [content, encodeBody, Style.delimiter, long]
    · cases style <;> decide
  | cons c text =>
    have notLine : c ≠ '\n' := fun same => lines (same ▸ List.mem_cons_self)
    cases style with
    | basic | literal => cases long
    | longBasic =>
      by_cases quote : c = '"'
      · subst quote
        exact ⟨'"', _, rfl, by decide, by decide⟩
      · obtain ⟨first, more, written, head⟩ := encodeChar_head true c
        have whole :
            content .longBasic (c :: text) = encodeChar true c ++ encodeBody true 0 text := by
          simp [content, encodeBody, quote, Style.escapes, Style.isLong]
        rw [whole, written]
        refine ⟨first, _, rfl, ?_⟩
        -- An escape starts with a backslash, and carriage returns are escaped.
        rcases head with rfl | ⟨rfl, notReturn⟩
        · decide
        · exact ⟨notLine, notReturn⟩
    | longLiteral =>
      have shown := (suits.1 c List.mem_cons_self).resolve_right notLine
      exact ⟨c, _, rfl, notLine, (ne_of_isText shown).1⟩

/-- The opening quotes of a text tell how it has been quoted. -/
theorem opening?_encode (text : List Char) {rest : List Char}
    (apart : rest.head? ≠ some '"' ∧ rest.head? ≠ some '\'') :
    Style.opening? (encode text ++ rest) =
      some (.ofText text, content (.ofText text) text ++ ((Style.ofText text).delimiter ++ rest)) := by
  -- The style of the text suits it, and that is all that matters of it.
  have suits := Style.suits_ofText text
  simp only [encode]
  generalize Style.ofText text = style at suits ⊢
  have inside : (if style.escapes = true then encodeBody style.isLong 0 text else text) =
      content style text := rfl
  rw [inside]
  cases long : style.isLong with
  | false =>
    -- Short strings are told from long ones by what follows the first quote.
    have apart : rest.head? ≠ some style.quote := by
      cases style with
      | basic => exact apart.1
      | literal => exact apart.2
      | longBasic | longLiteral => cases long
    have opened := Style.opening?_short long (content_short long suits apart)
    have single : style.delimiter = [style.quote] := by simp [Style.delimiter, long]
    simpa [single] using opened
  | true =>
    have opened := Style.opening?_long long
    by_cases lines : '\n' ∈ text
    · -- The line end that is written in front is the one that is dropped.
      simp only [lines, and_self, if_true, List.append_assoc, opened]
      rfl
    · obtain ⟨first, more, written, newline, return_⟩ := content_long long suits lines rest
      simp only [lines, and_false, if_false, List.append_nil, List.append_assoc, opened, written,
        Style.opening?.dropLineEnd_of_head newline return_]

/-- A text in quotes starts with a quote. -/
theorem encode_head (text : List Char) :
    ∃ quote more, encode text = quote :: more ∧ (quote = '"' ∨ quote = '\'') := by
  -- The style says which of the two quotes it is.
  unfold encode
  generalize Style.ofText text = style
  cases style with
  | basic | longBasic => exact ⟨'"', _, rfl, .inl rfl⟩
  | literal | longLiteral => exact ⟨'\'', _, rfl, .inr rfl⟩

/-- A text in quotes is read as itself, if no further quote follows. -/
theorem read_encode (text : List Char) {rest : List Char}
    (apart : rest.head? ≠ some '"' ∧ rest.head? ≠ some '\'') :
    read (encode text ++ rest) = some (String.ofList text, rest) := by
  -- The opening quotes are taken first, then the text, then the closing ones.
  have opened := opening?_encode text apart
  have content := body_content (Style.suits_ofText text) apart
  simp only [read, opened, content, Option.bind_eq_bind, Option.bind_some]
  rfl

end Quoted

end Toml

end SentinelRounds
