/-! Texts taken apart at a mark. -/

namespace SentinelRounds

namespace Split

/-- The parts between the occurrences of a mark, of which there is always one. -/
def all (mark : Char) : List Char → List (List Char)
  -- The head of the result is the part before the first mark.
  | [] => [[]]
  | c :: rest =>
    match all mark rest with
    | [] => [[]]
    | part :: parts => if c = mark then [] :: part :: parts else (c :: part) :: parts

/-- The parts before and after the first occurrence of a mark, if there is one. -/
def first? (mark : Char) : List Char → Option (List Char × List Char)
  -- The mark itself belongs to neither part.
  | [] => none
  | c :: rest =>
    if c = mark then some ([], rest)
    else (first? mark rest).map fun (before, after) => (c :: before, after)

/-- The parts before and after the last occurrence of a mark, if there is one. -/
def last? (mark : Char) : List Char → Option (List Char × List Char)
  -- An occurrence in the rest comes later than the one at hand.
  | [] => none
  | c :: rest =>
    match last? mark rest with
    | some (before, after) => some (c :: before, after)
    | none => if c = mark then some ([], rest) else none

end Split

end SentinelRounds
