import SentinelRounds.Text.Utf8
import SentinelRounds.Text.Digits
import SentinelRounds.Text.Quoted
import SentinelRounds.Text.Shortest

/-! Reading and writing JSON text, with the place of every fault. -/

namespace SentinelRounds

namespace Json

/-- A value that was found where another was expected. -/
inductive Found
  | null
  | flag (value : Bool)
  | integer (value : Int)
  | real (text : String)
  | text (value : String)
  | list
  | table
  deriving DecidableEq, Repr

/-- What a found value is called in messages. -/
def Found.message : Found → String
  | .null => "null"
  | .flag value => s!"boolean `{value}`"
  | .integer value => s!"integer `{value}`"
  | .real digits => s!"floating point `{digits}`"
  | .text value => "string " ++ Quoted.encode value
  | .list => "sequence"
  | .table => "map"

/-- Why a text is not JSON of the expected form. -/
inductive Cause
  | endInList
  | endInTable
  | endInText
  | endInValue
  | noColon
  | noListComma
  | noTableComma
  | badWord
  | noValue
  | badEscape
  | badNumber
  | outOfRange
  | badUnicode
  | controlCharacter
  | keyNotText
  | loneSurrogate
  | trailingComma
  | trailingText
  | cutEscape
  | wrongKind (found : Found) (expected : String)
  | wrongValue (found : Found) (expected : String)
  | wrongLength (length : Nat) (expected : String)
  | missingField (name : String)
  | repeatedField (name : String)
  | unknownChoice (name : String) (options : List String)
  deriving DecidableEq, Repr

/-- The list of alternatives a choice accepts, in words. -/
def optionsText : List String → String
  -- Two alternatives are joined by a word, more of them by commas.
  | [] => "there are no variants"
  | [only] => s!"expected `{only}`"
  | [first, second] => s!"expected `{first}` or `{second}`"
  | options => "expected one of " ++ ", ".intercalate (options.map fun name => s!"`{name}`")

/-- The wording of a cause. -/
def Cause.message : Cause → String
  -- The wording is fixed, because faults are compared as texts.
  | .endInList => "EOF while parsing a list"
  | .endInTable => "EOF while parsing an object"
  | .endInText => "EOF while parsing a string"
  | .endInValue => "EOF while parsing a value"
  | .noColon => "expected `:`"
  | .noListComma => "expected `,` or `]`"
  | .noTableComma => "expected `,` or `\x7d`"
  | .badWord => "expected ident"
  | .noValue => "expected value"
  | .badEscape => "invalid escape"
  | .badNumber => "invalid number"
  | .outOfRange => "number out of range"
  | .badUnicode => "invalid unicode code point"
  | .controlCharacter => "control character (\\u0000-\\u001F) found while parsing a string"
  | .keyNotText => "key must be a string"
  | .loneSurrogate => "lone leading surrogate in hex escape"
  | .trailingComma => "trailing comma"
  | .trailingText => "trailing characters"
  | .cutEscape => "unexpected end of hex escape"
  | .wrongKind found expected => "invalid type: " ++ found.message ++ ", expected " ++ expected
  | .wrongValue found expected => "invalid value: " ++ found.message ++ ", expected " ++ expected
  | .wrongLength length expected => s!"invalid length {length}, expected " ++ expected
  | .missingField name => s!"missing field `{name}`"
  | .repeatedField name => s!"duplicate field `{name}`"
  | .unknownChoice name options => s!"unknown variant `{name}`, " ++ optionsText options

/-- Where a fault lies: lines count from one, columns in bytes from the start of the line. -/
structure Place where
  line : Nat
  column : Nat
  deriving DecidableEq, Repr

/-- A cause and, once it is known, its place. -/
structure Fault where
  cause : Cause
  place : Option Place
  deriving DecidableEq, Repr

/-- The wording of a fault. -/
def Fault.message (fault : Fault) : String :=
  match fault.place with
  | some place => fault.cause.message ++ s!" at line {place.line} column {place.column}"
  | none => fault.cause.message

/-- The unread text and the place of its start. -/
structure Cursor where
  rest : Bytes
  place : Place
  deriving DecidableEq, Repr

/-- The place after one byte. -/
def Place.after (place : Place) (b : UInt8) : Place :=
  -- A line feed belongs to the line that it ends.
  if b = 0x0A then ⟨place.line + 1, 0⟩ else ⟨place.line, place.column + 1⟩

/-- A cursor at the start of a text. -/
def Cursor.ofBytes (text : Bytes) : Cursor := ⟨text, ⟨1, 0⟩⟩

/-- The cursor past the next byte, or unmoved at the end. -/
def Cursor.next (cursor : Cursor) : Cursor :=
  -- Reading past the end is no fault here; whoever needs a byte looks first.
  match cursor.rest with
  | [] => cursor
  | b :: rest => ⟨rest, cursor.place.after b⟩

/-- A reader moves a cursor and keeps where it stopped, also when it fails. -/
abbrev Reader := EStateM Fault Cursor

namespace Reader

/-- The next byte, unread. -/
def peek : Reader (Option UInt8) := fun cursor => .ok cursor.rest.head? cursor

/-- Reads the next byte, if there is one. -/
def next : Reader (Option UInt8) := fun cursor => .ok cursor.rest.head? cursor.next

/-- Passes the next byte. -/
def skip : Reader Unit := fun cursor => .ok () cursor.next

/-- Fails at the place the cursor has reached. -/
def fail {α : Type} (cause : Cause) : Reader α := fun cursor =>
  -- The byte at fault has been read already.
  .error ⟨cause, some cursor.place⟩ cursor

/-- Fails at the place just past the next byte. -/
def failPast {α : Type} (cause : Cause) : Reader α := fun cursor =>
  -- The byte at fault is still unread, but the place is the one behind it.
  .error ⟨cause, some cursor.next.place⟩ cursor

/-- Fails without a place, which an enclosing value supplies. -/
def failLoose {α : Type} (cause : Cause) : Reader α := fun cursor => .error ⟨cause, none⟩ cursor

/-- Gives a fault without a place the place where the reader stopped. -/
def placed {α : Type} (reader : Reader α) : Reader α := fun cursor =>
  -- A fault with a place comes from further inside, and keeps it.
  match reader cursor with
  | .error ⟨cause, none⟩ cursor => .error ⟨cause, some cursor.place⟩ cursor
  | result => result

/-- Reads a body and then its closing bracket; a fault of the body wins over one of the bracket. -/
def enclosed {α : Type} (body : Reader α) (close : Reader Unit) : Reader α := fun cursor =>
  -- The bracket is tried either way, because it decides where a fault without a place lies.
  match body cursor with
  | .ok value cursor =>
    match close cursor with
    | .ok _ cursor => .ok value cursor
    | .error fault cursor => .error fault cursor
  | .error fault cursor =>
    match close cursor with
    | .ok _ cursor | .error _ cursor => .error fault cursor

end Reader

open Reader

/-- Whether a byte is blank between values. -/
def isBlank (b : UInt8) : Bool := b == 0x20 || b == 0x0A || b == 0x09 || b == 0x0D

/-- The cursor past all blanks at its place. -/
def Cursor.skipBlanks (place : Place) : Bytes → Cursor
  | [] => ⟨[], place⟩
  | b :: rest => if isBlank b then skipBlanks (place.after b) rest else ⟨b :: rest, place⟩

/-- The next byte that is not blank, unread. -/
def peekSolid : Reader (Option UInt8) := fun cursor =>
  -- The blanks are passed even if the byte after them is then left.
  let cursor := Cursor.skipBlanks cursor.place cursor.rest
  .ok cursor.rest.head? cursor

/-- Reads the rest of a fixed word whose first letter has been read. -/
def readWord : Bytes → Reader Unit
  -- The word is told by its first letter, so any other one after it is a fault.
  | [] => pure ()
  | expected :: word => do
    match ← next with
    | none => fail .endInValue
    | some b => if b = expected then readWord word else fail .badWord

/-- The value of a hexadecimal digit. -/
def hexValue? (b : UInt8) : Option Nat :=
  -- Digits, capital letters and small letters.
  let n := b.toNat
  if 0x30 ≤ n ∧ n ≤ 0x39 then some (n - 0x30)
  else if 0x41 ≤ n ∧ n ≤ 0x46 then some (n - 0x41 + 10)
  else if 0x61 ≤ n ∧ n ≤ 0x66 then some (n - 0x61 + 10)
  else none

/-- Reads four hexadecimal digits; too little text counts as read. -/
def readHex : Reader Nat := fun cursor =>
  -- All four digits are read before any of them is judged.
  match cursor.rest with
  | a :: b :: c :: d :: _ =>
    let cursor := cursor.next.next.next.next
    match hexValue? a, hexValue? b, hexValue? c, hexValue? d with
    | some a, some b, some c, some d => .ok (a * 4096 + b * 256 + c * 16 + d) cursor
    | _, _, _, _ => .error ⟨.badEscape, some cursor.place⟩ cursor
  | _ =>
    let cursor := cursor.next.next.next
    .error ⟨.endInText, some cursor.place⟩ cursor

/-- Reads the second half of a surrogate pair and returns the code point of the pair. -/
def readLowSurrogate (high : Nat) : Reader Nat := do
  -- Anything but a further escape is passed before the fault is placed.
  match ← peek with
  | none => fail .endInText
  | some b =>
    skip
    if b ≠ 0x5C then fail .cutEscape
    else
      match ← peek with
      | none => fail .endInText
      | some b =>
        skip
        if b ≠ 0x75 then fail .cutEscape
        else
          let low ← readHex
          if 0xDC00 ≤ low ∧ low ≤ 0xDFFF then
            pure ((high - 0xD800) * 1024 + (low - 0xDC00) + 0x10000)
          else fail .loneSurrogate

/-- Reads a numbered escape whose letter has been read. -/
def readNumbered : Reader Nat := do
  -- A low surrogate cannot come first, and a high one has to be followed by a low one.
  let n ← readHex
  if 0xDC00 ≤ n ∧ n ≤ 0xDFFF then fail .loneSurrogate
  else if 0xD800 ≤ n ∧ n ≤ 0xDBFF then readLowSurrogate n
  else pure n

/-- The byte that a short escape stands for. -/
def shortEscape? (b : UInt8) : Option UInt8 :=
  -- A quote, a backslash and a slash stand for themselves, the letters for controls.
  if b = 0x22 then some 0x22
  else if b = 0x5C then some 0x5C
  else if b = 0x2F then some 0x2F
  else if b = 0x62 then some 0x08
  else if b = 0x66 then some 0x0C
  else if b = 0x6E then some 0x0A
  else if b = 0x72 then some 0x0D
  else if b = 0x74 then some 0x09
  else none

/-- Reads an escape whose backslash has been read, as the bytes it stands for. -/
def readEscape : Reader Bytes := do
  match ← next with
  | none => fail .endInText
  | some b =>
    -- The letter of a numbered escape is a small u.
    if b = 0x75 then
      let n ← readNumbered
      pure (Utf8.encodePoint n)
    else
      match shortEscape? b with
      | some plain => pure [plain]
      | none => fail .badEscape

/-- Reads the bytes of a text up to its closing quote, which is read too. -/
def readTextBytes : (fuel : Nat) → (before : Bytes) → Reader Bytes
  -- Every round reads a byte, so the length of the input is fuel enough.
  | 0, _ => fail .endInText
  | fuel + 1, before => do
    match ← next with
    | none => fail .endInText
    | some b =>
      -- A quote ends the text, and a backslash opens an escape.
      if b = 0x22 then pure before.reverse
      else if b = 0x5C then
        let bytes ← readEscape
        readTextBytes fuel (bytes.reverse ++ before)
      else if b.toNat < 0x20 then fail .controlCharacter
      else readTextBytes fuel (b :: before)

/-- Reads a text whose opening quote has been read. -/
def readText : Reader String := do
  -- A text stays on its line, so the first bad byte is counted back from the closing quote.
  let cursor ← get
  let bytes ← readTextBytes (cursor.rest.length + 1) []
  match Utf8.decode bytes with
  | .ok text => pure text
  | .error bad =>
    let cursor ← get
    let column := cursor.place.column - bytes.length + bad.validUpTo
    throw ⟨.badUnicode, some ⟨cursor.place.line, column⟩⟩

/-- A number as far as its type: whole numbers are kept apart from the rest. -/
inductive Number
  | natural (n : Nat)
  | negative (n : Nat)
  | real (text : String)
  deriving DecidableEq, Repr

/-- What a number is called where no number was expected. -/
def Number.found : Number → Found
  -- Whole numbers are shown alike, whatever their sign.
  | .natural n => .integer n
  | .negative n => .integer (-(n : Int))
  | .real text => .real text

/-- The largest whole number that is kept exact while its digits are read. -/
def maxExact : Nat := Nat.pow 2 64 - 1

/-- A power of ten in floating point; past the largest one there is none. -/
def powerOfTen? (exponent : Nat) : Option Float :=
  if exponent ≤ 308 then some (Float.ofScientific 1 false exponent) else none

/-- Scales a significand down by a large power of ten, one largest power at a time. -/
def scaleDown : (fuel : Nat) → Float → Nat → Float
  -- A significand has at most twenty digits, so it has long become zero by then.
  | 0, value, _ => value
  | fuel + 1, value, exponent =>
    match powerOfTen? exponent with
    | some power => value / power
    | none => if value == 0.0 then value else scaleDown fuel (value / 1e308) (exponent - 308)

/-- The floating-point value of a significand and a decimal exponent. -/
def floatOfParts (positive : Bool) (significand : Nat) (exponent : Int) : Reader Number := do
  -- A value past the largest finite one is out of range; zero has no range to leave.
  let start := Float.ofNat significand
  let finish (value : Float) : Number :=
    .real (Shortest.ofFloat (if positive then value else -value))
  if 0 ≤ exponent then
    match powerOfTen? exponent.toNat with
    | some power =>
      let value := start * power
      if value.isInf then fail .outOfRange else pure (finish value)
    | none => if start == 0.0 then pure (finish start) else fail .outOfRange
  else pure (finish (scaleDown 100 start exponent.natAbs))

/-- Reads digits into a count and the number they spell, while the number stays exact. -/
def readDigits : (fuel : Nat) → (count n : Nat) → Reader (Nat × Nat × Bool)
  -- The flag tells whether digits are left that no longer fit.
  | 0, count, n => pure (count, n, false)
  | fuel + 1, count, n => do
    match ← peek with
    | none => pure (count, n, false)
    | some b =>
      if Digits.isDigit b then
        if maxExact < 10 * n + Digits.value b then pure (count, n, true)
        else
          skip
          readDigits fuel (count + 1) (10 * n + Digits.value b)
      else pure (count, n, false)

/-- Passes digits and counts them. -/
def skipDigits : (fuel : Nat) → (count : Nat) → Reader Nat
  -- Every digit is one byte, so the unread length is fuel enough.
  | 0, count => pure count
  | fuel + 1, count => do
    match ← peek with
    | none => pure count
    | some b =>
      if Digits.isDigit b then
        skip
        skipDigits fuel (count + 1)
      else pure count

/-- The unread length, which bounds every loop over digits. -/
def unread : Reader Nat := do
  let cursor ← get
  pure cursor.rest.length

/-- The largest exponent that is read exactly. -/
def maxExponent : Nat := Nat.pow 2 31 - 1

/-- Reads the digits of an exponent, or nothing once they pass the largest exponent. -/
def readExponentDigits : (fuel : Nat) → (n : Nat) → Reader (Option Nat)
  -- The exponent only grows, so it may be given up once it is too large.
  | 0, n => pure (some n)
  | fuel + 1, n => do
    match ← peek with
    | none => pure (some n)
    | some b =>
      if Digits.isDigit b then
        skip
        let n := 10 * n + Digits.value b
        if maxExponent < n then pure none else readExponentDigits fuel n
      else pure (some n)

/-- Whether a byte opens an exponent. -/
def opensExponent (b : Option UInt8) : Bool := b == some 0x65 || b == some 0x45

/-- Reads an optional sign and tells whether it is positive. -/
def readSign : Reader Bool := do
  -- A plus is passed like no sign at all.
  match ← peek with
  | some 0x2B => skip; pure true
  | some 0x2D => skip; pure false
  | _ => pure true

/-- Reads an exponent and finishes the number it ends. -/
def readExponent (positive : Bool) (significand : Nat) (start : Int) : Reader Number := do
  skip
  let upward ← readSign
  match ← next with
  | none => fail .endInValue
  | some b =>
    if Digits.isDigit b then
      -- A huge exponent either leaves the range or makes the number vanish.
      match ← readExponentDigits (← unread) (Digits.value b) with
      | some n => floatOfParts positive significand (if upward then start + n else start - n)
      | none =>
        if significand ≠ 0 ∧ upward then fail .outOfRange
        else
          let _ ← skipDigits (← unread) 0
          pure (.real (if positive then "0.0" else "-0.0"))
    else fail .badNumber

/-- Reads a fraction and finishes the number it belongs to. -/
def readFraction (positive : Bool) (significand : Nat) (exponent : Int) : Reader Number := do
  skip
  let (count, significand, overflow) ← readDigits (← unread) 0 significand
  if overflow then
    -- Digits that no longer fit are passed without effect.
    let _ ← skipDigits (← unread) 0
  -- A point has to be followed by a digit, even by one that no longer fits.
  if count = 0 ∧ !overflow then
    match ← peek with
    | some _ => failPast .badNumber
    | none => failPast .endInValue
  else
    let exponent := exponent - count
    if opensExponent (← peek) then readExponent positive significand exponent
    else floatOfParts positive significand exponent

/-- Reads a number whose sign has been read. -/
def readNumber (positive : Bool) : Reader Number := do
  match ← next with
  | none => fail .endInValue
  | some first =>
    -- No digit may follow a leading zero.
    if !Digits.isDigit first then fail .badNumber
    else if first = 0x30 ∧ ((← peek).map Digits.isDigit) = some true then failPast .badNumber
    else
      let (_, n, overflow) ← readDigits (← unread) 0 (Digits.value first)
      let extra ← if overflow then skipDigits (← unread) 0 else pure 0
      match ← peek with
      | some 0x2E => readFraction positive n extra
      | after =>
        if opensExponent after then readExponent positive n extra
        else if overflow then floatOfParts positive n extra
        else if positive then pure (.natural n)
        -- Neither a negative zero nor what is below the smallest word is a whole number.
        else if n = 0 ∨ Nat.pow 2 63 < n then
          pure (.real (Shortest.ofFloat (-(Float.ofNat n))))
        else pure (.negative n)

/-- Fails because the value at hand is not of the expected kind; brackets stay unread. -/
def failKind {α : Type} (expected : String) : Reader α := placed do
  -- A scalar is read to the end first, so that its own faults win.
  match ← peek with
  | some 0x6E =>
    skip
    readWord (Bytes.ofAscii "ull")
    failLoose (.wrongKind .null expected)
  | some 0x74 =>
    skip
    readWord (Bytes.ofAscii "rue")
    failLoose (.wrongKind (.flag true) expected)
  | some 0x66 =>
    skip
    readWord (Bytes.ofAscii "alse")
    failLoose (.wrongKind (.flag false) expected)
  | some 0x2D =>
    skip
    let number ← readNumber false
    failLoose (.wrongKind number.found expected)
  | some 0x22 =>
    skip
    let text ← readText
    failLoose (.wrongKind (.text text) expected)
  | some 0x5B => failLoose (.wrongKind .list expected)
  | some 0x7B => failLoose (.wrongKind .table expected)
  | some b =>
    if Digits.isDigit b then
      let number ← readNumber true
      failLoose (.wrongKind number.found expected)
    else failPast .noValue
  | none => failPast .noValue

/-- The first byte of a value that has to be there. -/
def peekValue : Reader UInt8 := do
  -- What kind of value it is shows in its first byte.
  match ← peekSolid with
  | some b => pure b
  | none => failPast .endInValue

/-- Passes the colon between a key and its value. -/
def readColon : Reader Unit := do
  -- Blanks may stand before the colon.
  match ← peekSolid with
  | some 0x3A => skip
  | some _ => failPast .noColon
  | none => failPast .endInTable

/-- Moves to the next element of a list, if there is one. -/
def nextElement (first : Bool) : Reader Bool := do
  match ← peekSolid with
  | none => failPast .endInList
  | some b =>
    -- A closing bracket ends the list, but not right after a comma.
    if b = 0x5D then pure false
    else if first then pure true
    else if b = 0x2C then
      skip
      match ← peekSolid with
      | none => failPast .endInValue
      | some b => if b = 0x5D then failPast .trailingComma else pure true
    else failPast .noListComma

/-- Checks that a key starts here. -/
def atKey (b : UInt8) : Reader Bool :=
  if b = 0x22 then pure true else failPast .keyNotText

/-- Moves to the next key of a table, if there is one. -/
def nextKey (first : Bool) : Reader Bool := do
  match ← peekSolid with
  | none => failPast .endInTable
  | some b =>
    -- A closing brace ends the table, but not right after a comma.
    if b = 0x7D then pure false
    else if first then atKey b
    else if b = 0x2C then
      skip
      match ← peekSolid with
      | none => failPast .endInValue
      | some b => if b = 0x7D then failPast .trailingComma else atKey b
    else failPast .noTableComma

/-- Reads the bracket that ends a list. -/
def endList : Reader Unit := do
  -- Elements past the expected ones are trailing text.
  match ← peekSolid with
  | some 0x5D => skip
  | some 0x2C =>
    skip
    match ← peekSolid with
    | some 0x5D => failPast .trailingComma
    | _ => failPast .trailingText
  | some _ => failPast .trailingText
  | none => failPast .endInList

/-- Reads the bracket that ends a table. -/
def endTable : Reader Unit := do
  -- All members have been read, so only the brace is left unless one of them failed.
  match ← peekSolid with
  | some 0x7D => skip
  | some 0x2C => failPast .trailingComma
  | some _ => failPast .trailingText
  | none => failPast .endInTable

/-- Passes the rest of a text that nobody asked for; its escapes are checked only in form. -/
def ignoreText : (fuel : Nat) → Reader Unit
  -- No text comes of it, so its bytes need not be decodable.
  | 0 => fail .endInText
  | fuel + 1 => do
    match ← peek with
    | none => fail .endInText
    | some b =>
      if b.toNat < 0x20 then fail .controlCharacter
      else
        skip
        if b = 0x22 then pure ()
        else if b = 0x5C then
          match ← next with
          | none => fail .endInText
          | some e =>
            if e = 0x75 then
              let _ ← readHex
              ignoreText fuel
            else if (shortEscape? e).isSome then ignoreText fuel
            else fail .badEscape
        else ignoreText fuel

/-- Passes an exponent that nobody asked for. -/
def ignoreExponent : Reader Unit := do
  -- However large, an ignored exponent is in range.
  skip
  let _ ← readSign
  match ← next with
  | none => fail .badNumber
  | some b =>
    if Digits.isDigit b then
      let _ ← skipDigits (← unread) 0
    else fail .badNumber

/-- Passes a number that nobody asked for and whose sign has been read. -/
def ignoreNumber : Reader Unit := do
  match ← next with
  | none => fail .badNumber
  | some first =>
    -- The form is the same as that of a number that is read.
    if !Digits.isDigit first then fail .badNumber
    else if first = 0x30 ∧ ((← peek).map Digits.isDigit) = some true then failPast .badNumber
    else
      if first ≠ 0x30 then
        let _ ← skipDigits (← unread) 0
      match ← peek with
      | some 0x2E =>
        skip
        let count ← skipDigits (← unread) 0
        if count = 0 then failPast .badNumber
        else if opensExponent (← peek) then ignoreExponent
        else pure ()
      | after => if opensExponent after then ignoreExponent else pure ()

/-- A bracket that is open around the place being read. -/
inductive Bracket
  | list
  | table
  deriving DecidableEq, Repr

/-- Passes a scalar that nobody asked for. -/
def ignoreScalar (first : UInt8) : Reader Unit := do
  -- The three words are told by their first letters.
  if first = 0x6E then
    skip
    readWord (Bytes.ofAscii "ull")
  else if first = 0x74 then
    skip
    readWord (Bytes.ofAscii "rue")
  else if first = 0x66 then
    skip
    readWord (Bytes.ofAscii "alse")
  else if first = 0x2D then
    skip
    ignoreNumber
  else if Digits.isDigit first then ignoreNumber
  else if first = 0x22 then
    skip
    ignoreText (← unread)
  else failPast .noValue

/-- Passes a key and its colon, up to the value. -/
def ignoreKey : Reader Unit := do
  -- A key is a text, and its colon has to follow.
  match ← peekSolid with
  | some 0x22 =>
    skip
    ignoreText ((← unread) + 1)
    readColon
  | some _ => failPast .keyNotText
  | none => failPast .endInTable

/-- After a value or an opening bracket: closes brackets, and tells which one another value is in. -/
def closeBrackets : (fuel : Nat) → (comma : Bool) → List Bracket → Reader (List Bracket)
  -- No bracket left means that the whole value has been passed.
  | 0, _, _ => pure []
  | _, _, [] => pure []
  | fuel + 1, comma, bracket :: outer => do
    match ← peekSolid with
    | none => failPast (if bracket = .list then .endInList else .endInTable)
    | some b =>
      if b = 0x2C ∧ comma then
        skip
        pure (bracket :: outer)
      else if (b = 0x5D ∧ bracket = .list) ∨ (b = 0x7D ∧ bracket = .table) then
        skip
        closeBrackets fuel true outer
      else if comma then failPast (if bracket = .list then .noListComma else .noTableComma)
      else pure (bracket :: outer)

/-- Passes values that nobody asked for, as deep as they nest, until the brackets are closed. -/
def ignoreValues : (fuel : Nat) → List Bracket → Reader Unit
  -- Nesting is kept in a list of brackets, not in calls, so depth costs nothing.
  | 0, _ => fail .endInValue
  | fuel + 1, open' => do
    let first ← peekValue
    let (comma, brackets) ←
      if first = 0x5B then do skip; pure (false, Bracket.list :: open')
      else if first = 0x7B then do skip; pure (false, Bracket.table :: open')
      else do ignoreScalar first; pure (true, open')
    match ← closeBrackets ((← unread) + 1) comma brackets with
    | [] => pure ()
    | .list :: outer => ignoreValues fuel (.list :: outer)
    | .table :: outer =>
      ignoreKey
      ignoreValues fuel (.table :: outer)

/-- Passes one value that nobody asked for. -/
def ignoreValue : Reader Unit := do
  ignoreValues ((← unread) + 1) []

/-- How values of a type are written as JSON, and read. -/
structure Form (α : Type) where
  print : α → Bytes
  read : Reader α

/-- Reads a whole text as one value. -/
def Form.decode {α : Type} (form : Form α) (text : Bytes) : Except Fault α :=
  -- Blanks after the value belong to the text, and nothing else does.
  let whole : Reader α := do
    let value ← form.read
    match ← peekSolid with
    | some _ => failPast .trailingText
    | none => pure value
  match whole (Cursor.ofBytes text) with
  | .ok value _ => .ok value
  | .error fault _ => .error fault

/-- The bytes of one character of a text between quotes. -/
def printChar (c : Char) : Bytes :=
  -- Quotes, backslashes, and controls are escaped; all else stands for itself.
  if c = '"' then Bytes.ofAscii "\\\""
  else if c = '\\' then Bytes.ofAscii "\\\\"
  else if c.toNat = 0x08 then Bytes.ofAscii "\\b"
  else if c.toNat = 0x0C then Bytes.ofAscii "\\f"
  else if c = '\n' then Bytes.ofAscii "\\n"
  else if c = '\r' then Bytes.ofAscii "\\r"
  else if c = '\t' then Bytes.ofAscii "\\t"
  else if c.toNat < 0x10 then
    Bytes.ofAscii "\\u000" ++ (Quoted.hexDigits c.toNat).map fun d => UInt8.ofNat d.toNat
  else if c.toNat < 0x20 then
    Bytes.ofAscii "\\u00" ++ (Quoted.hexDigits c.toNat).map fun d => UInt8.ofNat d.toNat
  else Utf8.encodePoint c.toNat

/-- A text between quotes. -/
def printText (text : String) : Bytes :=
  -- The quotes at both ends are the only ones that are not escaped.
  0x22 :: (text.toList.flatMap printChar ++ [0x22])

/-- Printed values with commas between them. -/
def printRow : List Bytes → Bytes
  -- There is no comma after the last value.
  | [] => []
  | [only] => only
  | first :: rest => first ++ 0x2C :: printRow rest

namespace Form

/-- A form read through a pair of conversions that undo each other. -/
def via {α β : Type} (form : Form α) (build : α → β) (view : β → α) : Form β where
  print value := form.print (view value)
  read := do
    let value ← form.read
    pure (build value)

/-- A whole number below a bound, which messages call by the given name. -/
def natural (bound : Nat) (expected : String) : Form Nat where
  print n := Digits.encode n
  read := do
    -- A sign is looked at first, so that a negative number is shown as a whole.
    let first ← peekValue
    if first = 0x2D ∨ Digits.isDigit first then
      placed do
        if first = 0x2D then skip
        match ← readNumber (first ≠ 0x2D) with
        | .natural n =>
          if n < bound then pure n else failLoose (.wrongValue (.integer n) expected)
        | .negative n => failLoose (.wrongValue (.integer (-(n : Int))) expected)
        | .real text => failLoose (.wrongKind (.real text) expected)
    else failKind expected

/-- A truth value. -/
def flag : Form Bool where
  print value := Bytes.ofAscii (if value then "true" else "false")
  read := do
    let first ← peekValue
    -- The words are told by their first letters.
    if first = 0x74 then
      skip
      readWord (Bytes.ofAscii "rue")
      pure true
    else if first = 0x66 then
      skip
      readWord (Bytes.ofAscii "alse")
      pure false
    else failKind "a boolean"

/-- A text, which messages call by the given name where another value stands. -/
def textAs (expected : String) : Form String where
  print := printText
  read := do
    let first ← peekValue
    -- Every text opens with a quote.
    if first = 0x22 then
      skip
      readText
    else failKind expected

/-- A text. -/
def text : Form String := textAs "a string"

/-- A value that may be missing, where null stands for none. -/
def optional {α : Type} (item : Form α) : Form (Option α) where
  print
    | none => Bytes.ofAscii "null"
    | some value => item.print value
  read := do
    -- Null opens with a letter that no other value opens with.
    if (← peekSolid) = some 0x6E then
      skip
      readWord (Bytes.ofAscii "ull")
      pure none
    else
      let value ← item.read
      pure (some value)

/-- Reads the elements of a list after its opening bracket. -/
def readElements {α : Type} (item : Form α) : (fuel : Nat) → (first : Bool) → Reader (List α)
  -- Every element has at least one byte, so the unread length is fuel enough.
  | 0, _ => fail .endInList
  | fuel + 1, first => do
    if ← nextElement first then
      let value ← item.read
      let values ← readElements item fuel false
      pure (value :: values)
    else pure []

/-- A sequence. -/
def list {α : Type} (item : Form α) : Form (List α) where
  print values := 0x5B :: (printRow (values.map item.print) ++ [0x5D])
  read := do
    let first ← peekValue
    if first = 0x5B then
      -- A fault without a place lies where the reading of the list stops.
      placed do
        skip
        let fuel ← unread
        enclosed (readElements item (fuel + 1) true) endList
    else failKind "a sequence"

/-- One of some alternatives by name; a table of one name with no content is accepted too. -/
def choice {α : Type} (options : List α) (name : α → String) : Form α where
  print value := printText (name value)
  read := do
    -- The name is read as a text in either form.
    let select : Reader α := placed do
      let chosen ← (textAs "variant identifier").read
      match options.find? (fun value => name value == chosen) with
      | some value => pure value
      | none => failLoose (.unknownChoice chosen (options.map name))
    let first ← peekValue
    if first = 0x22 then select
    else if first = 0x7B then
      skip
      let value ← select
      readColon
      if (← peekValue) = 0x6E then
        skip
        readWord (Bytes.ofAscii "ull")
      else failKind "unit"
      match ← peekSolid with
      | some 0x7D => skip
      | some _ => fail .noValue
      | none => fail .endInTable
      pure value
    else failPast .noValue

end Form

end Json

end SentinelRounds
