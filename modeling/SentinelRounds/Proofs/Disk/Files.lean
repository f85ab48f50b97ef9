import SentinelRounds.Disk.Tree
import SentinelRounds.Proofs.Depot.Memory

/-! A file that has been put on a disk is found where it was put, with its content. -/

namespace SentinelRounds

namespace Disk

variable {disk after : Disk} {path : Path} {place : List String} {content : Bytes}

/-- A part of a path is entered by staying, by going up, or by going into a directory. -/
theorem enter_eq_ok_iff {from_ reached : List String} {part : String} :
    disk.enter from_ part = .ok reached ↔
      (part = Path.here ∧ reached = from_) ∨
      (part ≠ Path.here ∧ part = Path.up ∧ reached = from_.dropLast) ∨
      (part ≠ Path.here ∧ part ≠ Path.up ∧ part.utf8ByteSize ≤ maxName ∧
        disk.entries.get? (from_ ++ [part]) = some .directory ∧ reached = from_ ++ [part]) := by
  -- A part is compared with the two dots before it is taken for a name.
  unfold enter
  by_cases here : part = Path.here
  · rw [if_pos here]
    simp [here, eq_comm]
  rw [if_neg here]
  by_cases up : part = Path.up
  · have apart : Path.up ≠ Path.here := by decide
    rw [if_pos up]
    simp [up, apart, eq_comm]
  rw [if_neg up]
  by_cases long : maxName < part.utf8ByteSize
  · simp [here, up, long, Nat.not_le.mpr long]
  · have short : part.utf8ByteSize ≤ maxName := Nat.not_lt.mp long
    -- What is left depends on what has the name.
    cases found : disk.entries.get? (from_ ++ [part]) with
    | none => simp [here, up, long]
    | some entry => cases entry <;> simp [here, up, long, short, eq_comm]

/-- A disk on which a file stands at a place. -/
def withFile (disk : Disk) (place : List String) (content : Bytes) : Disk :=
  { disk with entries := disk.entries.insert place (.file content) }

/-- What stands at a place once a file has been put somewhere. -/
theorem get?_withFile (other : List String) :
    (disk.withFile place content).entries.get? other =
      if other = place then some (.file content) else disk.entries.get? other :=
  Keyed.get?_insert disk.entries place other (.file content)

/-- What could be entered can still be entered once a file stands where no directory is. -/
theorem enter_withFile (content : Bytes) (free : disk.entries.get? place ≠ some .directory)
    {from_ reached : List String} {part : String} (entered : disk.enter from_ part = .ok reached) :
    (disk.withFile place content).enter from_ part = .ok reached := by
  -- Only the entry of the place has changed, and it was no directory.
  rw [enter_eq_ok_iff] at entered ⊢
  rcases entered with stays | up | ⟨here, up, short, directory, rfl⟩
  · exact .inl stays
  · exact .inr (.inl up)
  · -- The file has not replaced the directory.
    have apart : from_ ++ [part] ≠ place := by
      rintro rfl
      exact free directory
    refine .inr (.inr ⟨here, up, short, ?_, rfl⟩)
    rw [get?_withFile, if_neg apart]
    exact directory

/-- A way through directories is not changed by a file that stands where no directory is. -/
theorem foldlM_enter_withFile (content : Bytes)
    (free : disk.entries.get? place ≠ some .directory) {parts start reached : List String}
    (entered : parts.foldlM disk.enter start = .ok reached) :
    parts.foldlM (disk.withFile place content).enter start = .ok reached := by
  -- The parts are entered one after the other, each as before.
  induction parts generalizing start with
  | nil => exact entered
  | cons part parts ih =>
    rw [List.foldlM_cons] at entered ⊢
    cases first : disk.enter start part with
    | error fault =>
      rw [first] at entered
      cases entered
    | ok next =>
      rw [first] at entered
      rw [enter_withFile content free first]
      exact ih entered

/-- A path leads where it led, whatever the content of files. -/
theorem locate_withFile (content : Bytes) (free : disk.entries.get? place ≠ some .directory)
    {found : Option (List String)} (located : disk.locate path = .ok found) :
    (disk.withFile place content).locate path = .ok found := by
  -- The checks before the way do not look at the entries.
  unfold locate at located ⊢
  by_cases empty : path.isEmpty = true
  · rwa [if_pos empty] at located ⊢
  rw [if_neg empty] at located ⊢
  by_cases invalid : (path.parts.any fun part => part.toList.contains '\x00') = true
  · rwa [if_pos invalid] at located ⊢
  rw [if_neg invalid] at located ⊢
  by_cases long : maxPath < path.text.utf8ByteSize
  · rwa [if_pos long] at located ⊢
  rw [if_neg long] at located ⊢
  -- The way is the same, so is where it ends.
  cases way : path.parts.dropLast.foldlM disk.enter (if path.rooted then [] else disk.working) with
  | error fault =>
    simp only [way, bind, Except.bind] at located
    cases located
  | ok last =>
    have same := foldlM_enter_withFile content free way
    simp only [withFile] at same ⊢
    simp only [way, same, bind, Except.bind] at located ⊢
    exact located

/-- Putting a file somewhere succeeds where a path leads to a name that no directory has. -/
theorem write_eq_ok_iff :
    disk.write path content = .ok after ↔
      ∃ place, disk.locate path = .ok (some place) ∧ path.slashed = false ∧
        named place = .ok place ∧ disk.entries.get? place ≠ some .directory ∧
        after = disk.withFile place content := by
  -- A name that is too long is refused, and any other is kept.
  have kept (place : List String) :
      named place = .ok place ∨ ∃ fault, named place = .error fault := by
    unfold named
    split
    · exact .inr ⟨_, rfl⟩
    · exact .inl rfl
  unfold write
  cases located : disk.locate path with
  -- The way to the file cannot be followed.
  | error fault => simp [bind, Except.bind]
  | ok found =>
    cases found with
    -- It leads above the root.
    | none => simp [bind, Except.bind]
    | some place =>
      cases slashed : path.slashed with
      -- A trailing slash asks for a directory.
      | true => simp [bind, Except.bind]
      | false =>
        rcases kept place with short | ⟨fault, long⟩
        · -- A directory is never replaced by a file.
          by_cases taken : disk.entries.get? place = some .directory
          · simp [bind, Except.bind, short, taken]
          · have same : Except.ok (disk.withFile place content) = (.ok after : Except DiskFault Disk) ↔
                after = disk.withFile place content := by simp [eq_comm]
            simpa [bind, Except.bind, short, taken, withFile, pure, Except.pure] using same
        · simp [bind, Except.bind, long]

/-- A file of any content can be put at the end of a path, to which a way can be made. -/
def Accepts (disk : Disk) (path : Path) : Prop :=
  (disk.makeWay path).1 = .ok () ∧
    ∀ content, ∃ after, (disk.makeWay path).2.write path content = .ok after

/-- Whether a file can be put somewhere does not depend on its content. -/
theorem write_ok_of_write (other : Bytes) (written : disk.write path content = .ok after) :
    ∃ place, disk.write path other = .ok (disk.withFile place other) := by
  -- None of the conditions of a write speaks of the content.
  obtain ⟨place, located, slashed, short, free, _⟩ := write_eq_ok_iff.mp written
  exact ⟨place, write_eq_ok_iff.mpr ⟨place, located, slashed, short, free, rfl⟩⟩

/-- A file that has been put somewhere is found there. -/
theorem find_write (written : disk.write path content = .ok after) :
    after.find path = .ok (.file content) := by
  -- The path still leads to the place, and the file has been put there.
  obtain ⟨place, located, slashed, short, free, rfl⟩ := write_eq_ok_iff.mp written
  have located := locate_withFile content free located
  simp [find, located, short, get?_withFile, slashed, bind, Except.bind, pure, Except.pure]

/-- A file that can be read exists. -/
theorem exists?_of_read (found : disk.read path = .ok content) : disk.exists? path = true := by
  -- Reading looks for the entry first, and fails if there is none.
  unfold read at found
  unfold exists?
  cases entry : disk.find path with
  | error fault => rw [entry] at found; cases found
  | ok _ => rfl

/-- A file that has been put somewhere has its content. -/
theorem read_write (written : disk.write path content = .ok after) :
    after.read path = .ok content := by
  -- A file that is found is read as it is.
  rw [read, find_write written]
  rfl

end Disk

end SentinelRounds
