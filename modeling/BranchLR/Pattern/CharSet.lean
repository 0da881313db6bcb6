import BranchLR.Text.CaseFolding
import BranchLR.Text.Ranges

/-!
# Sets of characters

The characters that a pattern takes in one place form a set. A set is kept as ascending ranges of
code points that neither overlap nor touch, so that the operations are single passes over the
ranges and equal sets are equal lists.
-/

namespace BranchLR.Pattern

/-- A set of characters, by ascending ranges of code points. -/
structure CharSet where
  ranges : List (Nat × Nat)
  deriving DecidableEq, Repr

namespace CharSet

/-- The last code point. -/
def lastCodePoint : Nat := 0x10FFFF

/-- The set without members. -/
def none : CharSet := ⟨[]⟩

/-- The characters from one code point to another. -/
def range (first last : Nat) : CharSet := ⟨[(first, last)]⟩

/-- The set of one character. -/
def single (c : Char) : CharSet := range c.toNat c.toNat

/-- Whether a character belongs to a set. -/
def contains (s : CharSet) (c : Char) : Bool := inRanges s.ranges c.toNat

/-- Whether all members are ASCII characters. -/
def isAscii (s : CharSet) : Bool := s.ranges.all fun r => decide (r.2 < 0x80)

/-- Joins what overlaps or touches in a row of ranges that ascend by their first code points. The
range being built is given apart. -/
def joinRanges (first last : Nat) : List (Nat × Nat) → List (Nat × Nat)
  | [] => [(first, last)]
  | (a, b) :: rest =>
    if a ≤ last + 1 then joinRanges first (max last b) rest
    else (first, last) :: joinRanges a b rest

/-- The set of the code points in a row of ranges that ascend by their first code points. -/
def ofAscending : List (Nat × Nat) → CharSet
  | [] => none
  | (a, b) :: rest => ⟨joinRanges a b rest⟩

/-- The characters of either set. -/
def union (a b : CharSet) : CharSet :=
  ofAscending (a.ranges.merge b.ranges fun r s => decide (r.1 ≤ s.1))

/-- The characters of any of the sets. -/
def unionAll (sets : List CharSet) : CharSet := sets.foldr union none

/-- The set of the code points in any row of ranges. -/
def ofRanges (ranges : List (Nat × Nat)) : CharSet :=
  ofAscending (ranges.mergeSort fun r s => decide (r.1 ≤ s.1))

/-- The ranges between some ascending ranges, from the given code point on. -/
def gaps (next : Nat) : List (Nat × Nat) → List (Nat × Nat)
  | [] => if next ≤ lastCodePoint then [(next, lastCodePoint)] else []
  | (a, b) :: rest => if next < a then (next, a - 1) :: gaps (b + 1) rest else gaps (b + 1) rest

/-- All other characters. -/
def complement (s : CharSet) : CharSet := ⟨gaps 0 s.ranges⟩

/-- The ranges that two rows of ascending ranges have in common. -/
def overlaps : List (Nat × Nat) → List (Nat × Nat) → List (Nat × Nat)
  | [], _ => []
  | _, [] => []
  | (a, b) :: rs, (c, d) :: ss =>
    let rest := if b < d then overlaps rs ((c, d) :: ss) else overlaps ((a, b) :: rs) ss
    if max a c ≤ min b d then (max a c, min b d) :: rest else rest
termination_by rs ss => rs.length + ss.length
decreasing_by all_goals simp only [List.length_cons]; omega

/-- The characters of both sets. -/
def inter (a b : CharSet) : CharSet := ⟨overlaps a.ranges b.ranges⟩

/-- The characters of the first set only. -/
def difference (a b : CharSet) : CharSet := a.inter b.complement

/-- The characters of exactly one of the sets. -/
def symmetric (a b : CharSet) : CharSet := (a.difference b).union (b.difference a)

/-- Every character that differs from a member at most in case. -/
def anyCase (s : CharSet) : CharSet :=
  let least := ofRanges (casePairs.filterMap fun (n, m) =>
    if inRanges s.ranges n || inRanges s.ranges m then some (n, n) else Option.none)
  let others := ofRanges (casePairs.filterMap fun (n, m) =>
    if inRanges least.ranges n then some (m, m) else Option.none)
  s.union (least.union others)

/-- The set of one character and those that differ from it only in case. -/
def singleAnyCase (c : Char) : CharSet := ofRanges ((caseVariants c.toNat).map fun n => (n, n))

/-- The ASCII capital letters among the members, in lower case, and the other way round. -/
def asciiAnyCase (s : CharSet) : CharSet :=
  let shift (by32 : Nat → Nat) (first last : Nat) : CharSet :=
    ⟨(s.inter (range first last)).ranges.map fun (a, b) => (by32 a, by32 b)⟩
  s.union ((shift (· + 0x20) 0x41 0x5A).union (shift (· - 0x20) 0x61 0x7A))

/-- The classes of ASCII characters that have a name inside brackets. -/
def named? (name : String) : Option CharSet :=
  match name with
  | "alnum" => some ⟨[(0x30, 0x39), (0x41, 0x5A), (0x61, 0x7A)]⟩
  | "alpha" => some ⟨[(0x41, 0x5A), (0x61, 0x7A)]⟩
  | "ascii" => some ⟨[(0x00, 0x7F)]⟩
  | "blank" => some ⟨[(0x09, 0x09), (0x20, 0x20)]⟩
  | "cntrl" => some ⟨[(0x00, 0x1F), (0x7F, 0x7F)]⟩
  | "digit" => some ⟨[(0x30, 0x39)]⟩
  | "graph" => some ⟨[(0x21, 0x7E)]⟩
  | "lower" => some ⟨[(0x61, 0x7A)]⟩
  | "print" => some ⟨[(0x20, 0x7E)]⟩
  | "punct" => some ⟨[(0x21, 0x2F), (0x3A, 0x40), (0x5B, 0x60), (0x7B, 0x7E)]⟩
  | "space" => some ⟨[(0x09, 0x0D), (0x20, 0x20)]⟩
  | "upper" => some ⟨[(0x41, 0x5A)]⟩
  | "word" => some ⟨[(0x30, 0x39), (0x41, 0x5A), (0x5F, 0x5F), (0x61, 0x7A)]⟩
  | "xdigit" => some ⟨[(0x30, 0x39), (0x41, 0x46), (0x61, 0x66)]⟩
  | _ => Option.none

end CharSet

end BranchLR.Pattern
