import BranchLR.Pattern

/-!
# Rules

The right-hand sides of a grammar are sequences of rules: references to items, terminals, and
brackets around sequences of their own. Equality of rules is decidable, and patterns count as equal
when their sources are.
-/

namespace BranchLR

variable [RegexLibrary]

/-- One step of a right-hand side. -/
inductive Rule where
  /-- A reference to an item by its name. -/
  | item (name : String)
  /-- A token with exactly this text. -/
  | literal (text : String)
  /-- A token whose whole text matches the pattern. -/
  | pattern (p : Pattern)
  /-- The empty match, which ends the sequence it stands in. -/
  | empty
  /-- The end of the input. -/
  | endOfInput
  /-- A sequence that may be left out. -/
  | optional (body : List Rule)
  /-- A sequence that may be left out or stand several times. -/
  | repeated (body : List Rule)

namespace Rule

mutual

/-- Whether two rules are the same. -/
def same : Rule → Rule → Bool
  | item a, item b => a == b
  | literal a, literal b => a == b
  | pattern a, pattern b => a == b
  | empty, empty => true
  | endOfInput, endOfInput => true
  | optional a, optional b => sameAll a b
  | repeated a, repeated b => sameAll a b
  | _, _ => false

/-- Whether two sequences hold the same rules. -/
def sameAll : List Rule → List Rule → Bool
  | [], [] => true
  | a :: as, b :: bs => same a b && sameAll as bs
  | _, _ => false

end

mutual

theorem same_iff : ∀ a b : Rule, same a b = true ↔ a = b
  | item _, b => by cases b <;> simp [same]
  | literal _, b => by cases b <;> simp [same]
  | pattern _, b => by cases b <;> simp [same]
  | empty, b => by cases b <;> simp [same]
  | endOfInput, b => by cases b <;> simp [same]
  | optional body, b => by cases b <;> simp [same, sameAll_iff body]
  | repeated body, b => by cases b <;> simp [same, sameAll_iff body]

theorem sameAll_iff : ∀ as bs : List Rule, sameAll as bs = true ↔ as = bs
  | [], bs => by cases bs <;> simp [sameAll]
  | a :: as, bs => by cases bs <;> simp [sameAll, same_iff a, sameAll_iff as]

end

instance : DecidableEq Rule := fun a b => decidable_of_iff _ (same_iff a b)

/-- Whether a rule is one step of a flat production: neither a bracket nor the empty match. -/
def isFlat : Rule → Bool
  | empty => false
  | optional _ => false
  | repeated _ => false
  | _ => true

end Rule

end BranchLR
