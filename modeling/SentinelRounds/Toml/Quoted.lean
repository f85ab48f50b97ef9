import SentinelRounds.Text.Digits
import SentinelRounds.Toml.Reader

/-! Quoted strings of settings files: the four ways to quote, and how each is read and written. -/

namespace SentinelRounds

namespace Toml

/-- A way to quote a string. -/
inductive Style
  | basic
  | literal
  | longBasic
  | longLiteral
  deriving DecidableEq, Repr

namespace Style

/-- The character that the quotes are made of. -/
def quote : Style → Char
  | .basic | .longBasic => '"'
  | .literal | .longLiteral => '\''

/-- Whether a string may go over several lines, between three quotes on each side. -/
def isLong : Style → Bool
  | .basic | .literal => false
  | .longBasic | .longLiteral => true

/-- Whether a backslash starts an escape. -/
def escapes : Style → Bool
  | .basic | .longBasic => true
  | .literal | .longLiteral => false

/-- The quotes on each side. -/
def delimiter (style : Style) : List Char :=
  if style.isLong then [style.quote, style.quote, style.quote] else [style.quote]

/--
The way a string is quoted whose text starts here, and what follows its opening quotes; a line end
right after three quotes does not belong to the string.
-/
def opening? : List Char → Option (Style × List Char)
  -- Three quotes are looked for first, since two of them alone are an empty string.
  | '"' :: '"' :: '"' :: rest => some (.longBasic, dropLineEnd rest)
  | '\'' :: '\'' :: '\'' :: rest => some (.longLiteral, dropLineEnd rest)
  | '"' :: rest => some (.basic, rest)
  | '\'' :: rest => some (.literal, rest)
  | _ => none
where
  dropLineEnd : List Char → List Char
    | '\n' :: rest => rest
    | '\r' :: '\n' :: rest => rest
    | rest => rest

end Style

namespace Quoted

/-- The character that a one-letter escape stands for. -/
def shortEscape? : Char → Option Char
  | 'b' => some '\x08'
  | 't' => some '\t'
  | 'n' => some '\n'
  | 'f' => some '\x0c'
  | 'r' => some '\r'
  | '"' => some '"'
  | '\\' => some '\\'
  | _ => none

/-- The character whose number some hexadecimal digits spell. -/
def numbered? (digits : List Char) : Option Char := do
  -- A number that is no character is refused, as a surrogate is.
  let values ← digits.mapM Digits.hexValue?
  let n := Digits.ofValues 16 values
  if n.isValidChar then some (Char.ofNat n) else none

/-- Puts a character in front of what the rest reads as. -/
def push (c : Char) (rest : Option (List Char × List Char)) : Option (List Char × List Char) :=
  rest.map fun (text, rest) => (c :: text, rest)

/-- Where the joining of lines by a backslash stands. -/
inductive Joint
  /-- Lines stay apart. -/
  | apart
  /-- A line end has to come next, but for blanks. -/
  | due
  /-- Blanks and line ends are passed. -/
  | passing
  deriving DecidableEq, Repr

/-- What three closing quotes leave: up to two quotes before them belong to the string. -/
def close (quote : Char) (rest : List Char) : List Char × List Char :=
  -- Five quotes in a row are two of the string and three that close it.
  let extra := (rest.take 2).takeWhile (· = quote)
  (extra, rest.drop extra.length)

/-- Reads the text of a string and its closing quotes. -/
def body (style : Style) : Joint → Reader (List Char)
  -- While lines are joined, nothing but blanks and line ends is passed.
  | _, [] => none
  | joint, c :: rest =>
    if joint ≠ .apart ∧ isBlank c then body style joint rest
    else if joint ≠ .apart ∧ c = '\n' then body style .passing rest
    else if c = '\r' ∧ style.isLong then
      if rest.head? = some '\n' then body style joint rest else none
    else if joint = .due then none
    else if c = style.quote then
      if !style.isLong then some ([], rest)
      else if rest.take 2 = [c, c] then some (close c (rest.drop 2))
      else push c (body style .apart rest)
    else if c = '\\' ∧ style.escapes then
      match rest with
      | [] => none
      | d :: after =>
        if style.isLong ∧ (isBlank d ∨ d = '\n' ∨ d = '\r') then body style .due (d :: after)
        else
          match shortEscape? d with
          | some c => push c (body style .apart after)
          | none =>
            match d, after with
            | 'u', a₁ :: a₂ :: a₃ :: a₄ :: after =>
              (numbered? [a₁, a₂, a₃, a₄]).bind fun c => push c (body style .apart after)
            | 'U', a₁ :: a₂ :: a₃ :: a₄ :: a₅ :: a₆ :: a₇ :: a₈ :: after =>
              (numbered? [a₁, a₂, a₃, a₄, a₅, a₆, a₇, a₈]).bind fun c =>
                push c (body style .apart after)
            | _, _ => none
    else if isText c ∨ (c = '\n' ∧ style.isLong) then push c (body style .apart rest)
    else none

/-- Reads a string in any of the four ways. -/
def read : Reader String := fun text => do
  -- The opening quotes decide how the rest is read.
  let (style, rest) ← Style.opening? text
  let (content, rest) ← body style .apart rest
  pure (String.ofList content, rest)

/-- Whether a character can only be written by an escape. -/
def needsEscape (c : Char) : Bool := !isText c && c != '\n'

/-- The length of the longest run of a quote. -/
def longestRun (quote : Char) (text : List Char) : Nat :=
  let (longest, _) := text.foldl (fun (longest, run) c =>
    let run := if c = quote then run + 1 else 0
    (max longest run, run)) (0, 0)
  longest

end Quoted

namespace Style

/--
The way a text is quoted: the plainest one that shows it without escapes, and only if there is none
of those, one with escapes.
-/
def ofText (text : List Char) : Style :=
  let coded := text.any Quoted.needsEscape
  let slashed := text.contains '\\'
  let lines := text.contains '\n'
  let doubles := Quoted.longestRun '"' text
  let singles := Quoted.longestRun '\'' text
  if !coded && !slashed && doubles == 0 && !lines then .basic
  else if !coded && singles == 0 && !lines then .literal
  else if !coded && !slashed && doubles ≤ 2 then .longBasic
  else if !coded && singles ≤ 2 then .longLiteral
  else if lines then .longBasic
  else .basic

end Style

namespace Quoted

/-- One character other than a quote, where a backslash starts an escape. -/
def encodeChar (long : Bool) (c : Char) : List Char :=
  if c = '\x08' then ['\\', 'b']
  else if c = '\t' then ['\\', 't']
  else if c = '\n' ∧ !long then ['\\', 'n']
  else if c = '\x0c' then ['\\', 'f']
  else if c = '\r' then ['\\', 'r']
  else if c = '\\' then ['\\', '\\']
  else if needsEscape c then
    ['\\', 'u', '0', '0', Digits.upper (c.toNat / 16), Digits.upper (c.toNat % 16)]
  else [c]

/--
A text where a backslash starts an escape, after a run of quotes; of three quotes in a long string,
and of any in a short one, the last is escaped.
-/
def encodeBody (long : Bool) : (run : Nat) → List Char → List Char
  | _, [] => []
  | run, c :: rest =>
    if c = '"' then
      if run < (if long then 2 else 0) then c :: encodeBody long (run + 1) rest
      else '\\' :: c :: encodeBody long 0 rest
    else encodeChar long c ++ encodeBody long 0 rest

/-- A text in quotes; a long string with several lines starts on a line of its own. -/
def encode (text : List Char) : List Char :=
  let style := Style.ofText text
  let start := if style.isLong ∧ '\n' ∈ text then ['\n'] else []
  let content := if style.escapes then encodeBody style.isLong 0 text else text
  style.delimiter ++ start ++ content ++ style.delimiter

end Quoted

end Toml

end SentinelRounds
