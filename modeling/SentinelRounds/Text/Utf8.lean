import SentinelRounds.Bytes

/-! UTF-8: writing characters as bytes, and reading bytes that are exactly such a writing. -/

namespace SentinelRounds

namespace Utf8

/-- Why bytes are not UTF-8. -/
structure Malformed where
  /-- Length of the longest readable beginning. -/
  validUpTo : Nat
  /-- Length of the offending sequence, or nothing where the input ends inside one. -/
  badLength : Option Nat
  deriving DecidableEq, Repr

/-- The wording of a malformed sequence. -/
def Malformed.message (fault : Malformed) : String :=
  -- An input that ends inside a sequence might still have become one.
  match fault.badLength with
  | some n => s!"invalid utf-8 sequence of {n} bytes from index {fault.validUpTo}"
  | none => s!"incomplete utf-8 byte sequence from index {fault.validUpTo}"

/-- The continuation byte that carries six bits. -/
def tailByte (bits : Nat) : UInt8 := UInt8.ofNat (0x80 + bits % 64)

/-- The bytes of one code point, as many as its size needs. -/
def encodePoint (n : Nat) : Bytes :=
  -- The lead byte announces the length and carries the high bits.
  if n < 0x80 then [UInt8.ofNat n]
  else if n < 0x800 then [UInt8.ofNat (0xC0 + n / 64), tailByte n]
  else if n < 0x10000 then [UInt8.ofNat (0xE0 + n / 4096), tailByte (n / 64), tailByte n]
  else [UInt8.ofNat (0xF0 + n / 262144), tailByte (n / 4096), tailByte (n / 64), tailByte n]

/-- The bytes of a list of characters. -/
def encodeChars (text : List Char) : Bytes := text.flatMap fun c => encodePoint c.toNat

/-- The bytes of a string. -/
def encode (text : String) : Bytes := encodeChars text.toList

/-- Whether a byte continues a sequence. -/
def isTail (b : UInt8) : Bool := 0x80 ≤ b.toNat && b.toNat < 0xC0

/-- The six bits a continuation byte carries. -/
def tailBits (b : UInt8) : Nat := b.toNat % 64

/-- Whether the second byte of a three-byte sequence makes neither an overlong form nor a surrogate. -/
def secondOfThree (lead second : UInt8) : Bool :=
  -- Two leads allow only a part of the second bytes.
  isTail second && (lead.toNat != 0xE0 || 0xA0 ≤ second.toNat) &&
    (lead.toNat != 0xED || second.toNat < 0xA0)

/--
Whether the second byte of a four-byte sequence makes neither an overlong form nor too large a value.
-/
def secondOfFour (lead second : UInt8) : Bool :=
  -- Two leads allow only a part of the second bytes.
  isTail second && (lead.toNat != 0xF0 || 0x90 ≤ second.toNat) &&
    (lead.toNat != 0xF4 || second.toNat < 0x90)

/-- Puts a character read at some offset in front of what the rest reads as. -/
def consPoint (n : Nat) (rest : Except Malformed (List Char)) : Except Malformed (List Char) :=
  rest.map (Char.ofNat n :: ·)

/-- Reads bytes that start at the given offset of the whole input. -/
def decodeFrom (offset : Nat) : Bytes → Except Malformed (List Char)
  -- The first byte that cannot continue the sequence ends it; earlier bytes are its length.
  | [] => .ok []
  | a :: rest =>
    if a.toNat < 0x80 then consPoint a.toNat (decodeFrom (offset + 1) rest)
    else if 0xC2 ≤ a.toNat ∧ a.toNat < 0xE0 then
      match rest with
      | [] => .error ⟨offset, none⟩
      | b :: rest =>
        if isTail b then
          consPoint (a.toNat % 32 * 64 + tailBits b) (decodeFrom (offset + 2) rest)
        else .error ⟨offset, some 1⟩
    else if 0xE0 ≤ a.toNat ∧ a.toNat < 0xF0 then
      match rest with
      | [] => .error ⟨offset, none⟩
      | b :: rest =>
        if secondOfThree a b then
          match rest with
          | [] => .error ⟨offset, none⟩
          | c :: rest =>
            if isTail c then
              consPoint (a.toNat % 16 * 4096 + tailBits b * 64 + tailBits c)
                (decodeFrom (offset + 3) rest)
            else .error ⟨offset, some 2⟩
        else .error ⟨offset, some 1⟩
    else if 0xF0 ≤ a.toNat ∧ a.toNat < 0xF5 then
      match rest with
      | [] => .error ⟨offset, none⟩
      | b :: rest =>
        if secondOfFour a b then
          match rest with
          | [] => .error ⟨offset, none⟩
          | c :: rest =>
            if isTail c then
              match rest with
              | [] => .error ⟨offset, none⟩
              | d :: rest =>
                if isTail d then
                  consPoint
                    (a.toNat % 8 * 262144 + tailBits b * 4096 + tailBits c * 64 + tailBits d)
                    (decodeFrom (offset + 4) rest)
                else .error ⟨offset, some 3⟩
            else .error ⟨offset, some 2⟩
        else .error ⟨offset, some 1⟩
    else .error ⟨offset, some 1⟩

/-- The string whose writing the bytes are. -/
def decode (bytes : Bytes) : Except Malformed String :=
  (decodeFrom 0 bytes).map String.ofList

/-- The text of bytes, with a mark in place of every sequence that is malformed. -/
def decodeMarked (bytes : Bytes) : String :=
  String.ofList (go (bytes.length + 1) bytes)
where
  /-- Every round passes a malformed sequence, so the fuel is the number of bytes. -/
  go : (fuel : Nat) → Bytes → List Char
    | 0, _ => []
    | fuel + 1, bytes =>
      match decodeFrom 0 bytes with
      | .ok text => text
      | .error fault =>
        let readable := (decodeFrom 0 (bytes.take fault.validUpTo)).toOption.getD []
        readable ++ '\uFFFD' :: match fault.badLength with
          | some length => go fuel (bytes.drop (fault.validUpTo + length))
          | none => []

end Utf8

end SentinelRounds
