import SentinelRounds.Wire.Json
import SentinelRounds.Proofs.Text.Digits
import SentinelRounds.Proofs.Text.Utf8

/-! Printed JSON reads back as it was. -/

namespace SentinelRounds

namespace Json

variable {α β : Type}

/-- A reader takes some text off the front and returns a value, wherever the text stands. -/
def Reads (reader : Reader α) (text rest : Bytes) (value : α) : Prop :=
  ∀ place, ∃ after, reader ⟨text, place⟩ = .ok value ⟨rest, after⟩

namespace Reads

/-- Returning a value takes nothing. -/
theorem pure (value : α) (text : Bytes) : Reads (Pure.pure value) text text value :=
  fun place => ⟨place, rfl⟩

/-- A reader whose result decides how to go on. -/
theorem bind {first : Reader α} {next : α → Reader β} {text middle rest : Bytes} {a : α} {b : β}
    (front : Reads first text middle a) (back : Reads (next a) middle rest b) :
    Reads (first >>= next) text rest b := by
  -- The second reader starts where the first one has stopped.
  intro place
  obtain ⟨there, reached⟩ := front place
  obtain ⟨after, ended⟩ := back there
  refine ⟨after, ?_⟩
  simp only [Bind.bind, EStateM.bind, reached]
  exact ended

/-- A reader that asks where it stands is told. -/
theorem get_bind {next : Cursor → Reader β} (cursor : Cursor) :
    (get >>= next) cursor = next cursor cursor := rfl

/-- Looking at the next byte takes nothing. -/
theorem peek (text : Bytes) : Reads Reader.peek text text text.head? := fun place => ⟨place, rfl⟩

/-- Taking the next byte. -/
theorem next (b : UInt8) (rest : Bytes) : Reads Reader.next (b :: rest) rest (some b) :=
  fun _ => ⟨_, rfl⟩

/-- Passing the next byte. -/
theorem skip (b : UInt8) (rest : Bytes) : Reads Reader.skip (b :: rest) rest () :=
  fun _ => ⟨_, rfl⟩

/-- Measuring what is left takes nothing. -/
theorem unread (text : Bytes) : Reads Json.unread text text text.length := fun place => ⟨place, rfl⟩

/-- Looking at the next byte takes nothing if it is not blank. -/
theorem peekSolid {b : UInt8} (solid : isBlank b = false) (rest : Bytes) :
    Reads Json.peekSolid (b :: rest) (b :: rest) (some b) := by
  -- There is no blank to pass.
  intro place
  refine ⟨place, ?_⟩
  simp only [Json.peekSolid, Cursor.skipBlanks, solid, Bool.false_eq_true, if_false]
  rfl

/-- Looking at the first byte of a value takes nothing. -/
theorem peekValue {b : UInt8} (solid : isBlank b = false) (rest : Bytes) :
    Reads Json.peekValue (b :: rest) (b :: rest) b :=
  (peekSolid solid rest).bind (pure b _)

/-- A reader that succeeds has no fault to place. -/
theorem placed {reader : Reader α} {text rest : Bytes} {value : α}
    (reads : Reads reader text rest value) : Reads (Reader.placed reader) text rest value := by
  -- Only faults are given a place.
  intro place
  obtain ⟨after, reached⟩ := reads place
  exact ⟨after, by simp only [Reader.placed, reached]⟩

/-- A body and its closing bracket. -/
theorem enclosed {body : Reader α} {close : Reader Unit} {text middle rest : Bytes} {value : α}
    (inner : Reads body text middle value) (closing : Reads close middle rest ()) :
    Reads (Reader.enclosed body close) text rest value := by
  -- The bracket is read where the body has ended.
  intro place
  obtain ⟨there, reached⟩ := inner place
  obtain ⟨after, ended⟩ := closing there
  exact ⟨after, by simp only [Reader.enclosed, reached, ended]⟩

/-- The rest of a fixed word. -/
theorem readWord (word rest : Bytes) : Reads (Json.readWord word) (word ++ rest) rest () := by
  -- The bytes of the word are compared one by one.
  induction word with
  | nil => exact pure () rest
  | cons b word ih =>
    rw [Json.readWord, List.cons_append]
    refine (next b _).bind ?_
    simp only [if_true]
    exact ih

end Reads

/-- Text in which a value cannot go on: none is left, or a comma or a closing bracket comes next. -/
def Ends : Bytes → Prop
  | [] => True
  | b :: _ => b = 0x2C ∨ b = 0x5D ∨ b = 0x7D

/-- Where a value ends, no number goes on. -/
theorem Ends.not_number {rest : Bytes} (ends : Ends rest) :
    rest.head?.map Digits.isDigit ≠ some true ∧ rest.head? ≠ some 0x2E ∧
      opensExponent rest.head? = false := by
  -- There is nothing more, or one of three bytes.
  cases rest with
  | nil => exact ⟨by decide, by decide, rfl⟩
  | cons b rest =>
    have closed : ∀ b : UInt8, b = 0x2C ∨ b = 0x5D ∨ b = 0x7D →
        (some b).map Digits.isDigit ≠ some true ∧ some b ≠ some 0x2E ∧
          opensExponent (some b) = false := by
      -- Neither a comma nor a closing bracket goes on with a number.
      rintro b (rfl | rfl | rfl) <;> decide
    exact closed b ends

/-- Digits are read as far as they go while the number they spell stays exact. -/
theorem reads_readDigits {digits rest : Bytes} (all : ∀ b ∈ digits, Digits.isDigit b = true)
    (ends : rest.head?.map Digits.isDigit ≠ some true) {fuel : Nat} (enough : digits.length ≤ fuel)
    (count n : Nat) (small : Digits.pushAll n digits ≤ maxExact) :
    Reads (readDigits fuel count n) (digits ++ rest) rest
      (count + digits.length, Digits.pushAll n digits, false) := by
  -- The digits are taken one by one, and the number grows with each of them.
  induction digits generalizing fuel count n with
  | nil =>
    -- The digits are over, by the fuel or by what comes next.
    cases fuel with
    | zero => exact .pure _ rest
    | succ fuel =>
      refine (Reads.peek _).bind ?_
      cases rest with
      | nil => exact .pure _ []
      | cons b rest =>
        have other : ¬ Digits.isDigit b = true := fun digit => ends (by simp [digit])
        simp only [List.nil_append, List.head?_cons, if_neg other]
        exact .pure _ _
  | cons b digits ih =>
    obtain ⟨fuel, rfl⟩ : ∃ fewer, fuel = fewer + 1 := by
      rw [List.length_cons] at enough
      exact ⟨fuel - 1, by omega⟩
    have digit := all b List.mem_cons_self
    have step : Digits.pushAll n (b :: digits) =
        Digits.pushAll (10 * n + Digits.value b) digits := rfl
    rw [step] at small ⊢
    -- The number only grows, so it has to be small already.
    have keeps : ¬ maxExact < 10 * n + Digits.value b := by
      have grows := Digits.le_pushAll (10 * n + Digits.value b) digits
      omega
    have tail := ih (fun other member => all other (List.mem_cons_of_mem _ member))
      (Nat.le_of_succ_le_succ enough) (count + 1) _ small
    refine (Reads.peek _).bind ?_
    simp only [List.cons_append, List.head?_cons, if_pos digit, if_neg keeps]
    have moved : count + 1 + digits.length = count + (b :: digits).length := by
      rw [List.length_cons]
      omega
    rw [moved] at tail
    exact (Reads.skip _ _).bind tail

/-- The digits of a number that stays exact are read as that number. -/
theorem reads_readNumber {n : Nat} (small : n ≤ maxExact) {rest : Bytes} (ends : Ends rest) :
    Reads (readNumber true) (Digits.encode n ++ rest) rest (.natural n) := by
  -- The numeral has a first digit, and what follows the value is none.
  obtain ⟨all, spells, first, others, shape, leading⟩ := Digits.encode_spells n
  obtain ⟨stops, point, exponent⟩ := ends.not_number
  rw [shape] at all spells ⊢
  have digit := all first List.mem_cons_self
  -- The first digit is read before the others, and counts among them.
  have value : Digits.pushAll (Digits.value first) others = n := by
    rw [← spells]
    simp only [Digits.pushAll, List.foldl_cons, Nat.mul_zero, Nat.zero_add]
  -- A leading zero has nothing to follow it.
  have zero : ¬ (first = 0x30 ∧ (others ++ rest).head?.map Digits.isDigit = some true) := by
    rintro ⟨zero, more⟩
    rw [leading zero] at more
    exact stops more
  rw [List.cons_append]
  refine (Reads.next _ _).bind ?_
  simp only [digit, Bool.not_true, Bool.false_eq_true, if_false]
  refine (Reads.peek _).bind ?_
  rw [if_neg zero]
  refine (Reads.unread _).bind ?_
  have fuel : others.length ≤ (others ++ rest).length := by
    rw [List.length_append]
    omega
  -- The other digits are read as far as they go.
  have digits := reads_readDigits (fun b member => all b (List.mem_cons_of_mem _ member)) stops
    fuel 0 (Digits.value first) (by rw [value]; exact small)
  rw [value] at digits
  refine digits.bind ?_
  simp only [Bool.false_eq_true, if_false]
  refine (Reads.pure 0 _).bind ?_
  refine (Reads.peek _).bind ?_
  -- No fraction and no exponent follow.
  split
  · rename_i dot
    exact absurd dot point
  · simp only [exponent, Bool.false_eq_true, if_false, if_true]
    exact .pure _ rest

/-- A short escape is read as the byte it stands for. -/
theorem reads_shortEscape {letter plain : UInt8} (stands : shortEscape? letter = some plain)
    (rest : Bytes) : Reads readEscape (letter :: rest) rest [plain] := by
  -- The letter is not the one of a numbered escape.
  have other : letter ≠ 0x75 := by
    rintro rfl
    cases stands
  refine (Reads.next _ _).bind ?_
  simp only [if_neg other, stands]
  exact .pure _ rest

/-- Four hexadecimal digits are read as their number. -/
theorem reads_readHex {a b c d : UInt8} {i j k l : Nat} (first : hexValue? a = some i)
    (second : hexValue? b = some j) (third : hexValue? c = some k) (fourth : hexValue? d = some l)
    (rest : Bytes) :
    Reads readHex (a :: b :: c :: d :: rest) rest (i * 4096 + j * 256 + k * 16 + l) := by
  -- Four digits are passed in one go.
  intro place
  let passed := (Cursor.mk (a :: b :: c :: d :: rest) place).next.next.next.next
  exact ⟨passed.place, by simp only [readHex, first, second, third, fourth]; rfl⟩

/-- A numbered escape of a control character is read as that character. -/
theorem reads_numberedEscape {high low : UInt8} {i j : Nat} (first : hexValue? high = some i)
    (second : hexValue? low = some j) (small : i * 16 + j < 0xD800) (rest : Bytes) :
    Reads readEscape (0x75 :: 0x30 :: 0x30 :: high :: low :: rest) rest
      (Utf8.encodePoint (i * 16 + j)) := by
  -- The first two digits are zeros.
  have zero : hexValue? 0x30 = some 0 := rfl
  have hex := reads_readHex zero zero first second rest
  simp only [Nat.zero_mul, Nat.zero_add] at hex
  -- The number is no half of a pair.
  have noLow : ¬ (0xDC00 ≤ i * 16 + j ∧ i * 16 + j ≤ 0xDFFF) := by omega
  have noHigh : ¬ (0xD800 ≤ i * 16 + j ∧ i * 16 + j ≤ 0xDBFF) := by omega
  have numbered : Reads readNumbered (0x30 :: 0x30 :: high :: low :: rest) rest (i * 16 + j) := by
    refine hex.bind ?_
    rw [if_neg noLow, if_neg noHigh]
    exact .pure _ rest
  refine (Reads.next _ _).bind ?_
  simp only [if_true]
  exact numbered.bind (.pure _ rest)

/-- The byte of a hexadecimal digit. -/
def hexByte (digit : Nat) : UInt8 := UInt8.ofNat (if digit < 10 then 0x30 + digit else 0x57 + digit)

/-- The byte of a hexadecimal digit has the value of that digit. -/
theorem hexValue?_hexByte : ∀ digit < 0x10, hexValue? (hexByte digit) = some digit := by decide

/-- A number below sixteen is written as one hexadecimal digit. -/
theorem hexDigits_low : ∀ n < 0x10,
    (Quoted.hexDigits n).map (fun d => UInt8.ofNat d.toNat) = [hexByte n] := by
  decide

/-- The next sixteen numbers are written as two hexadecimal digits. -/
theorem hexDigits_high : ∀ n < 0x10,
    (Quoted.hexDigits (0x10 + n)).map (fun d => UInt8.ofNat d.toNat) = [0x31, hexByte n] := by
  decide

/--
A character stands for itself in a text, in bytes that neither close the text nor open an escape, or
is escaped.
-/
theorem printChar_cases (c : Char) :
    (∃ escape, printChar c = 0x5C :: escape ∧
      ∀ rest, Reads readEscape (escape ++ rest) rest (Utf8.encodePoint c.toNat)) ∨
    printChar c = Utf8.encodePoint c.toNat ∧
      ∀ b ∈ Utf8.encodePoint c.toNat, b ≠ 0x22 ∧ b ≠ 0x5C ∧ ¬ b.toNat < 0x20 := by
  -- The cases are those of the printer, in its order.
  unfold printChar
  split
  · rename_i quote
    subst quote
    exact .inl ⟨[0x22], rfl, reads_shortEscape rfl⟩
  split
  · rename_i quote slash
    subst slash
    exact .inl ⟨[0x5C], rfl, reads_shortEscape rfl⟩
  split
  · rename_i code
    rw [code]
    exact .inl ⟨[0x62], rfl, reads_shortEscape rfl⟩
  split
  · rename_i code
    rw [code]
    exact .inl ⟨[0x66], rfl, reads_shortEscape rfl⟩
  split
  · rename_i feed
    subst feed
    exact .inl ⟨[0x6E], rfl, reads_shortEscape rfl⟩
  split
  · rename_i feed
    subst feed
    exact .inl ⟨[0x72], rfl, reads_shortEscape rfl⟩
  split
  · rename_i tab
    subst tab
    exact .inl ⟨[0x74], rfl, reads_shortEscape rfl⟩
  split
  · rename_i small
    have zero : hexValue? 0x30 = some 0 := rfl
    -- Control characters without a short escape have a number of two digits.
    rw [hexDigits_low _ small]
    refine .inl ⟨[0x75, 0x30, 0x30, 0x30, hexByte c.toNat], rfl, fun rest => ?_⟩
    have numbered := reads_numberedEscape zero (hexValue?_hexByte _ small) (by omega) rest
    rwa [Nat.zero_mul, Nat.zero_add] at numbered
  split
  · rename_i large small
    obtain ⟨n, code⟩ : ∃ n, c.toNat = 0x10 + n := ⟨c.toNat - 0x10, by omega⟩
    have one : hexValue? 0x31 = some 1 := rfl
    rw [code, hexDigits_high n (by omega)]
    refine .inl ⟨[0x75, 0x30, 0x30, 0x31, hexByte n], rfl, fun rest => ?_⟩
    exact reads_numberedEscape one (hexValue?_hexByte n (by omega)) (by omega) rest
  · rename_i quote slash _ _ _ _ _ _ plain
    -- What is left is neither a quote nor a slash nor a control character.
    refine .inr ⟨rfl, fun b member => ?_⟩
    have valid := Utf8.toNat_valid c
    have notQuote : c.toNat ≠ 0x22 := fun code => quote (Char.toNat_inj.mp code)
    have notSlash : c.toNat ≠ 0x5C := fun code => slash (Char.toNat_inj.mp code)
    rcases Utf8.mem_encodePoint (by omega) member with code | large
    · refine ⟨?_, ?_, by omega⟩
      · rintro rfl
        exact notQuote code.symm
      · rintro rfl
        exact notSlash code.symm
    · refine ⟨?_, ?_, by omega⟩
      · rintro rfl
        exact absurd large (by decide)
      · rintro rfl
        exact absurd large (by decide)

/-- Printed characters are read up to the closing quote, as the bytes that they stand for. -/
theorem reads_readTextBytes (text : List Char) (before rest : Bytes) {fuel : Nat}
    (enough : (text.flatMap printChar).length < fuel) :
    Reads (readTextBytes fuel before) (text.flatMap printChar ++ 0x22 :: rest) rest
      (before.reverse ++ Utf8.encodeChars text) := by
  -- The bytes read so far stand in reverse.
  induction text generalizing before fuel with
  | nil =>
    obtain ⟨fuel, rfl⟩ : ∃ fewer, fuel = fewer + 1 := ⟨fuel - 1, by omega⟩
    refine (Reads.next _ _).bind ?_
    rw [Utf8.encodeChars, List.flatMap_nil, List.append_nil]
    exact .pure _ rest
  | cons c text ih =>
    rw [List.flatMap_cons, List.length_append] at enough
    rw [List.flatMap_cons, List.append_assoc]
    have whole : before.reverse ++ Utf8.encodeChars (c :: text) =
        ((Utf8.encodePoint c.toNat).reverse ++ before).reverse ++ Utf8.encodeChars text := by
      simp [Utf8.encodeChars]
    rw [whole]
    rcases printChar_cases c with ⟨escape, shape, reads⟩ | ⟨shape, plain⟩
    · -- An escape is read in one round.
      rw [shape, List.length_cons] at enough
      obtain ⟨fuel, rfl⟩ : ∃ fewer, fuel = fewer + 1 := ⟨fuel - 1, by omega⟩
      rw [shape, List.cons_append]
      refine (Reads.next _ _).bind ?_
      exact (reads _).bind (ih _ (by omega))
    · -- A character that stands for itself takes a round for each of its bytes.
      rw [shape] at enough ⊢
      generalize Utf8.encodePoint c.toNat = bytes at enough plain
      clear whole shape
      induction bytes generalizing before fuel with
      | nil => exact ih before (by omega)
      | cons b bytes inner =>
        rw [List.length_cons] at enough
        obtain ⟨fuel, rfl⟩ : ∃ fewer, fuel = fewer + 1 := ⟨fuel - 1, by omega⟩
        obtain ⟨quote, slash, control⟩ := plain b List.mem_cons_self
        refine (Reads.next _ _).bind ?_
        simp only [if_neg quote, if_neg slash, if_neg control]
        have room : bytes.length + (text.flatMap printChar).length < fuel := by omega
        have others := inner (b :: before) room
          (fun other member => plain other (List.mem_cons_of_mem _ member))
        simpa using others

/-- A printed text whose opening quote has been read is read as that text. -/
theorem reads_readText (text : String) (rest : Bytes) :
    Reads readText (text.toList.flatMap printChar ++ 0x22 :: rest) rest text := by
  -- There are more bytes than characters printed, the quote being one of them.
  have enough : (text.toList.flatMap printChar).length <
      (text.toList.flatMap printChar ++ 0x22 :: rest).length + 1 := by
    rw [List.length_append]
    omega
  have bytes := reads_readTextBytes text.toList [] rest enough
  intro place
  obtain ⟨after, reached⟩ := bytes place
  refine ⟨after, ?_⟩
  have decoded := Utf8.decode_encode text
  rw [Utf8.encode] at decoded
  rw [readText, Reads.get_bind]
  simp only [Bind.bind, EStateM.bind, reached, List.reverse_nil, List.nil_append, decoded]
  rfl

namespace Form

/--
A printed value starts with a byte that is not blank and closes no list, and reading it takes
exactly the print wherever a value may end.
-/
structure Restores (form : Form α) (value : α) : Prop where
  opens : ∃ b more, form.print value = b :: more ∧ isBlank b = false ∧ b ≠ 0x5D
  reads : ∀ rest, Ends rest → Reads form.read (form.print value ++ rest) rest value

/-- A conversion restores what the form below it restores. -/
theorem Restores.via {form : Form α} {build : α → β} {view : β → α} {value : β}
    (below : form.Restores (view value)) (undone : build (view value) = value) :
    (form.via build view).Restores value := by
  -- What is read below is converted, and that undoes the view.
  refine ⟨below.opens, fun rest ends => (below.reads rest ends).bind ?_⟩
  rw [undone]
  exact .pure value rest

/-- The first byte of a number is a digit, and a digit is neither blank nor a sign nor a bracket. -/
theorem digit_opens {b : UInt8} (digit : Digits.isDigit b = true) :
    isBlank b = false ∧ b ≠ 0x5D ∧ b ≠ 0x2D := by
  -- Whatever is no digit differs from every digit.
  have differs : ∀ other, Digits.isDigit other = false → b ≠ other := by
    rintro other plain rfl
    rw [digit] at plain
    cases plain
  refine ⟨?_, differs _ rfl, differs _ rfl⟩
  simp only [isBlank, Bool.or_eq_false_iff, beq_eq_false_iff_ne]
  exact ⟨⟨⟨differs _ rfl, differs _ rfl⟩, differs _ rfl⟩, differs _ rfl⟩

/-- Numbers below a bound that keeps them exact are restored. -/
theorem restores_natural {bound n : Nat} (fits : n < bound) (narrow : bound ≤ Nat.pow 2 64)
    (expected : String) : (natural bound expected).Restores n := by
  -- A numeral opens with a digit, which no other kind of value does.
  obtain ⟨all, _, first, others, shape, _⟩ := Digits.encode_spells n
  have digit := all first (by rw [shape]; exact List.mem_cons_self)
  obtain ⟨solid, bracket, sign⟩ := digit_opens digit
  refine ⟨⟨first, others, shape, solid, bracket⟩, fun rest ends => ?_⟩
  -- The bound keeps the number exact.
  have small : n ≤ maxExact := by
    unfold maxExact
    omega
  have number := reads_readNumber small ends
  have printed : (natural bound expected).print n ++ rest = first :: (others ++ rest) := by
    rw [← List.cons_append, ← shape]
    rfl
  rw [printed]
  rw [shape, List.cons_append] at number
  -- The first digit tells that a number follows.
  refine (Reads.peekValue solid _).bind ?_
  rw [if_pos (Or.inr digit)]
  refine Reads.placed ?_
  simp only [sign, if_false, ne_eq, not_false_eq_true, decide_true]
  refine number.bind ?_
  simp only [fits, if_true]
  exact .pure n rest

/-- Truth values are restored. -/
theorem restores_flag (value : Bool) : flag.Restores value := by
  -- The first letter tells which word follows.
  cases value with
  | true =>
    refine ⟨⟨_, _, rfl, rfl, by decide⟩, fun rest _ => ?_⟩
    refine (Reads.peekValue (by decide) _).bind ?_
    rw [if_pos (by decide)]
    exact (Reads.skip _ _).bind ((Reads.readWord _ _).bind (.pure true rest))
  | false =>
    refine ⟨⟨_, _, rfl, rfl, by decide⟩, fun rest _ => ?_⟩
    refine (Reads.peekValue (by decide) _).bind ?_
    rw [if_neg (by decide), if_pos (by decide)]
    exact (Reads.skip _ _).bind ((Reads.readWord _ _).bind (.pure false rest))

/-- A printed text before other text. -/
theorem printText_append (text : String) (rest : Bytes) :
    printText text ++ rest = 0x22 :: (text.toList.flatMap printChar ++ 0x22 :: rest) := by
  rw [printText, List.cons_append, List.append_assoc, List.singleton_append]

/-- Texts are restored. -/
theorem restores_text (value : String) : text.Restores value := by
  -- The opening quote tells that a text follows.
  refine ⟨⟨_, _, rfl, rfl, by decide⟩, fun rest _ => ?_⟩
  have printed : text.print value ++ rest =
      0x22 :: (value.toList.flatMap printChar ++ 0x22 :: rest) := printText_append value rest
  rw [printed]
  refine (Reads.peekValue rfl _).bind ?_
  simp only [if_true]
  exact (Reads.skip _ _).bind (reads_readText value rest)

/-- Values that may be missing are restored if what is printed for them is never taken for null. -/
theorem restores_optional {item : Form α} {value : Option α}
    (present : ∀ v, value = some v → item.Restores v ∧ (item.print v).head? ≠ some 0x6E) :
    (optional item).Restores value := by
  -- What is missing is printed as a word of its own.
  cases value with
  | none =>
    -- Nothing is printed as null.
    refine ⟨⟨_, _, rfl, rfl, by decide⟩, fun rest _ => ?_⟩
    refine (Reads.peekSolid (by decide) _).bind ?_
    rw [if_pos (by decide)]
    exact (Reads.skip _ _).bind ((Reads.readWord _ _).bind (.pure none rest))
  | some v =>
    obtain ⟨below, other⟩ := present v rfl
    obtain ⟨b, more, shape, solid, bracket⟩ := below.opens
    refine ⟨⟨b, more, shape, solid, bracket⟩, fun rest ends => ?_⟩
    -- The first byte tells that this is not null.
    have reads := below.reads rest ends
    have printed : (optional item).print (some v) ++ rest = b :: (more ++ rest) := by
      rw [← List.cons_append, ← shape]
      rfl
    rw [printed]
    rw [shape, List.cons_append] at reads
    refine (Reads.peekSolid solid _).bind ?_
    rw [shape, List.head?_cons] at other
    rw [if_neg other]
    exact reads.bind (.pure (some v) rest)

/-- A comma before every row after the first. -/
theorem printRow_cons (first : Bytes) (rows : List Bytes) :
    printRow (first :: rows) = first ++ rows.flatMap fun row => 0x2C :: row := by
  -- The comma stands before the next row rather than after the last one.
  induction rows generalizing first with
  | nil => simp [printRow]
  | cons second rows ih =>
    rw [printRow, ih, List.flatMap_cons, List.cons_append]
    exact List.cons_ne_nil _ _

/-- Rows after commas are at least as many bytes as they are. -/
theorem length_le_rows (rows : List Bytes) :
    rows.length ≤ (rows.flatMap fun row => 0x2C :: row).length :=
  Bytes.length_le_flatMap (fun row => List.cons_ne_nil 0x2C row) rows

/-- Every row is a part of what is printed of all of them. -/
theorem length_le_printRow {row : Bytes} {rows : List Bytes} (member : row ∈ rows) :
    row.length ≤ (printRow rows).length := by
  -- There is no row of no rows.
  cases rows with
  | nil => cases member
  | cons first rows =>
    -- The row is the first one, or it stands behind a comma.
    rw [printRow_cons, List.length_append]
    rcases List.mem_cons.mp member with rfl | later
    · omega
    · have part : (0x2C :: row).Sublist (rows.flatMap fun row => 0x2C :: row) :=
        List.sublist_flatten_of_mem (List.mem_map_of_mem later)
      have shorter := part.length_le
      rw [List.length_cons] at shorter
      omega

/-- Printed values are at most as many as the bytes of their list. -/
theorem length_le_printList {α : Type} (item : Form α) (values : List α) :
    values.length ≤ ((Form.list item).print values).length := by
  -- An empty list has no values to count.
  cases values with
  | nil => exact Nat.zero_le _
  | cons value values =>
    -- Every value but the first has a comma, and the first has the bracket.
    have rows := length_le_rows (values.map item.print)
    rw [List.length_map] at rows
    simp only [Form.list, List.map_cons, printRow_cons, List.length_cons, List.length_append]
    omega

/-- Where a row ends in a list, a comma or the closing bracket comes next. -/
theorem ends_rows (rows : List Bytes) (rest : Bytes) :
    Ends (rows.flatMap (fun row => 0x2C :: row) ++ 0x5D :: rest) := by
  -- A further row stands behind a comma.
  cases rows with
  | nil => exact .inr (.inl rfl)
  | cons row rows => exact .inl rfl

/-- After the first element of a list, every further one follows a comma. -/
theorem reads_later {item : Form α} {values : List α}
    (each : ∀ value ∈ values, item.Restores value) (rest : Bytes) {fuel : Nat}
    (enough : values.length < fuel) :
    Reads (readElements item fuel false)
      ((values.map item.print).flatMap (fun row => 0x2C :: row) ++ 0x5D :: rest) (0x5D :: rest)
      values := by
  -- The values are read one by one, and each takes a unit of fuel.
  induction values generalizing fuel with
  | nil =>
    obtain ⟨fuel, rfl⟩ : ∃ fewer, fuel = fewer + 1 := ⟨fuel - 1, by omega⟩
    -- The closing bracket ends the list.
    have closed : Reads (nextElement false) (0x5D :: rest) (0x5D :: rest) false :=
      (Reads.peekSolid rfl _).bind (.pure false _)
    exact closed.bind (.pure [] _)
  | cons value values ih =>
    rw [List.length_cons] at enough
    obtain ⟨fuel, rfl⟩ : ∃ fewer, fuel = fewer + 1 := ⟨fuel - 1, by omega⟩
    have below := each value List.mem_cons_self
    obtain ⟨b, more, shape, solid, bracket⟩ := below.opens
    have others := ih (fun other member => each other (List.mem_cons_of_mem _ member))
      (show values.length < fuel by omega)
    have ends := ends_rows (values.map item.print) rest
    generalize tail : (values.map item.print).flatMap (fun row => 0x2C :: row) ++ 0x5D :: rest =
      after at others ends
    have reads := below.reads after ends
    have text : ((value :: values).map item.print).flatMap (fun row => 0x2C :: row) ++ 0x5D :: rest =
        0x2C :: (item.print value ++ after) := by
      rw [← tail, List.map_cons, List.flatMap_cons, List.cons_append, List.cons_append,
        List.append_assoc]
    -- The comma is passed, and the value behind it begins.
    have comma : Reads (nextElement false) (0x2C :: (item.print value ++ after))
        (item.print value ++ after) true := by
      refine (Reads.peekSolid rfl _).bind ?_
      rw [shape, List.cons_append]
      refine (Reads.skip _ _).bind ((Reads.peekSolid solid _).bind ?_)
      simp only [if_neg bracket]
      exact .pure true _
    rw [text]
    exact comma.bind (reads.bind (others.bind (.pure _ _)))

/-- Sequences are restored if all their values are. -/
theorem restores_list {item : Form α} {values : List α}
    (each : ∀ value ∈ values, item.Restores value) : (list item).Restores values := by
  -- The opening bracket tells that a list follows.
  refine ⟨⟨_, _, rfl, rfl, by decide⟩, fun rest _ => ?_⟩
  have printed : (list item).print values ++ rest =
      0x5B :: (printRow (values.map item.print) ++ 0x5D :: rest) := by
    simp only [list, List.cons_append, List.append_assoc, List.nil_append]
  rw [printed]
  refine (Reads.peekValue rfl _).bind ?_
  simp only [if_true]
  refine Reads.placed ((Reads.skip _ _).bind ((Reads.unread _).bind ?_))
  -- The closing bracket is read once all elements are.
  have close : Reads endList (0x5D :: rest) rest () :=
    (Reads.peekSolid rfl _).bind (Reads.skip _ _)
  refine Reads.enclosed ?_ close
  cases values with
  | nil =>
    have closed : Reads (nextElement true) (0x5D :: rest) (0x5D :: rest) false :=
      (Reads.peekSolid rfl _).bind (.pure false _)
    exact closed.bind (.pure [] _)
  | cons value values =>
    have below := each value List.mem_cons_self
    obtain ⟨b, more, shape, solid, bracket⟩ := below.opens
    rw [List.map_cons, printRow_cons, List.append_assoc]
    -- The fuel is the number of unread bytes, which is at least that of the elements.
    have room : values.length <
        (item.print value ++ ((values.map item.print).flatMap (fun row => 0x2C :: row) ++
          0x5D :: rest)).length := by
      have rows := length_le_rows (values.map item.print)
      rw [List.length_map] at rows
      simp only [List.length_append, List.length_cons]
      omega
    have others := reads_later (fun other member => each other (List.mem_cons_of_mem _ member))
      rest room
    have reads := below.reads _ (ends_rows (values.map item.print) rest)
    -- The first element stands behind the opening bracket, without a comma.
    have begun : ∀ after, Reads (nextElement true) (item.print value ++ after)
        (item.print value ++ after) true := by
      intro after
      rw [shape, List.cons_append]
      refine (Reads.peekSolid solid _).bind ?_
      simp only [if_neg bracket, if_true]
      exact .pure true _
    exact (begun _).bind (reads.bind (others.bind (.pure _ _)))

end Form

end Json

end SentinelRounds
