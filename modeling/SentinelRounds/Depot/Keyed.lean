/-! Finite maps, kept in the order of their keys. -/

namespace SentinelRounds

/-- Values under distinct keys in rising order, so that equal contents are equal maps. -/
structure Keyed (κ α : Type) where
  entries : List (κ × α)
  deriving DecidableEq, Repr

namespace Keyed

variable {κ α : Type}

/-- The map without keys. -/
def empty : Keyed κ α := ⟨[]⟩

/-- The value under a key. -/
def get? [BEq κ] (map : Keyed κ α) (key : κ) : Option α := map.entries.lookup key

/-- Whether a key has a value. -/
def contains [BEq κ] (map : Keyed κ α) (key : κ) : Bool := (map.get? key).isSome

/-- Puts a value under a key into entries in rising order. -/
def insertEntry [DecidableEq κ] [LT κ] [DecidableLT κ] (key : κ) (value : α) :
    List (κ × α) → List (κ × α)
  -- The first entry that is not below the key is the one replaced or displaced.
  | [] => [(key, value)]
  | (other, held) :: rest =>
    if key = other then (key, value) :: rest
    else if key < other then (key, value) :: (other, held) :: rest
    else (other, held) :: insertEntry key value rest

/-- The map with a value put under a key, in place of any other. -/
def insert [DecidableEq κ] [LT κ] [DecidableLT κ] (map : Keyed κ α) (key : κ) (value : α) :
    Keyed κ α :=
  ⟨insertEntry key value map.entries⟩

/-- The map without a key. -/
def erase [DecidableEq κ] (map : Keyed κ α) (key : κ) : Keyed κ α :=
  -- What is left stays in order.
  ⟨map.entries.filter fun entry => entry.1 ≠ key⟩

/-- The number of keys. -/
def size (map : Keyed κ α) : Nat := map.entries.length

/-- The keys in rising order. -/
def keys (map : Keyed κ α) : List κ := map.entries.map (·.1)

/-- The values in the order of their keys. -/
def values (map : Keyed κ α) : List α := map.entries.map (·.2)

end Keyed

end SentinelRounds
