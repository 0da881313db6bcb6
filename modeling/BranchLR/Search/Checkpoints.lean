import BranchLR.Search.Stack

/-!
# Checkpoints

The snapshots that a search can return to, the newest first. Their number is kept beside them, since
it is asked for with every one that is added.
-/

namespace BranchLR

variable [RegexLibrary]

/-- The snapshots that can be returned to. -/
structure Checkpoints where
  newestFirst : List Snapshot
  size : Nat
  size_eq : size = newestFirst.length
  deriving DecidableEq

namespace Checkpoints

/-- No checkpoint. -/
def empty : Checkpoints := ⟨[], 0, rfl⟩

/-- Whether one more checkpoint makes the oldest give way. -/
def isFull (c : Checkpoints) (horizon : Nat) : Bool := decide (horizon ≤ c.size)

/-- Adds a snapshot as the newest checkpoint, of which only as many are kept as the horizon says. -/
def record (c : Checkpoints) (horizon : Nat) (s : Snapshot) : Checkpoints :=
  if c.size < horizon then ⟨s :: c.newestFirst, c.size + 1, by simp [c.size_eq]⟩
  else ⟨(s :: c.newestFirst).take horizon, min horizon (c.size + 1), by simp [c.size_eq]⟩

/-- The newest `horizon` snapshots are kept. -/
theorem newestFirst_record (c : Checkpoints) (horizon : Nat) (s : Snapshot) :
    (c.record horizon s).newestFirst = (s :: c.newestFirst).take horizon := by
  unfold record
  split
  · rename_i h
    rw [List.take_of_length_le]
    simp only [List.length_cons, ← c.size_eq]
    exact h
  · rfl

/-- Moves the newest of the listed snapshots that has a candidate left on to it, and drops those
before it. -/
def retryFrom : (saved : List Snapshot) → (size : Nat) → size = saved.length →
    Option (Snapshot × Checkpoints)
  | [], _, _ => none
  | s :: rest, size, h =>
    match s.advance? with
    | some next => some (next, ⟨next :: rest, size, by simpa using h⟩)
    | none => retryFrom rest (size - 1) (by simp at h; omega)

/-- Moves the newest checkpoint that has a candidate left on to it, and drops those before it, which
have none. The snapshot to resume from stays the newest checkpoint. -/
def retry (c : Checkpoints) : Option (Snapshot × Checkpoints) :=
  retryFrom c.newestFirst c.size c.size_eq

end Checkpoints

end BranchLR
