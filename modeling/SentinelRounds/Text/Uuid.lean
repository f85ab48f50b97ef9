import SentinelRounds.Bytes

/-! Random ids: sixteen bytes in the layout of version four. -/

namespace SentinelRounds

namespace Uuid

/-- The number of bytes of an id. -/
def width : Nat := 16

/-- A byte in two hexadecimal digits. -/
def pair (b : UInt8) : List Char := [Nat.digitChar (b.toNat / 16), Nat.digitChar (b.toNat % 16)]

/-- The bytes with the version and the variant written into their places. -/
def stamp (bytes : Bytes) : Bytes :=
  -- The high half of one byte is the version, and the two high bits of another the variant.
  bytes.mapIdx fun index b =>
    if index = 6 then UInt8.ofNat (0x40 + b.toNat % 16)
    else if index = 8 then UInt8.ofNat (0x80 + b.toNat % 64)
    else b

/-- The id of some random bytes, in groups with dashes between them. -/
def ofBytes (bytes : Bytes) : String :=
  -- Each byte has two digits, so the groups take four, two, two, two and six bytes.
  let digits := (stamp bytes).flatMap pair
  let group (start length : Nat) := (digits.drop start).take length
  String.ofList
    (['-'].intercalate [group 0 8, group 8 4, group 12 4, group 16 4, group 20 12])

end Uuid

end SentinelRounds
