import BranchLR.Pattern.Escape

/-!
# Classes in brackets

A class lists the characters it takes, one by one, in ranges, by name or as classes of their own,
and joins such lists by the operations of sets. Reading keeps the brackets that are still open.
-/

namespace BranchLR.Pattern

/-- The operations that join the two sides of a class. -/
inductive SetOperation where
  | inter
  | difference
  | symmetric

/-- The set that an operation makes of two. -/
def SetOperation.apply : SetOperation → CharSet → CharSet → CharSet
  | inter => .inter
  | difference => .difference
  | symmetric => .symmetric

/-- A set with the depth to which brackets and operations are nested in it. -/
structure NestedSet where
  set : CharSet
  depth : Nat

/-- A class whose bracket is still open: whether it is negated, the operation that waits for its
right side, and the members read since, with their number and the depth of the deepest. -/
structure OpenClass where
  negated : Bool
  pending : Option (SetOperation × NestedSet) := none
  members : CharSet := .none
  count : Nat := 0
  depth : Nat := 0

namespace OpenClass

/-- The class with one more member. -/
def add (c : OpenClass) (s : CharSet) (depth : Nat) : OpenClass :=
  { c with
    members := c.members.union s
    count := c.count + 1
    depth := max c.depth depth }

/-- The set read so far. Several members side by side are one level deeper than the deepest, and so
is an operation. -/
def body (f : Flags) (c : OpenClass) : NestedSet :=
  let depth := if 2 ≤ c.count then c.depth + 1 else c.depth
  match c.pending with
  | none => ⟨c.members, depth⟩
  | some (op, left) =>
    ⟨op.apply (f.fold left.set) (f.fold c.members), max left.depth depth + 1⟩

/-- The class with an operation waiting for its right side. -/
def operate (f : Flags) (c : OpenClass) (op : SetOperation) : OpenClass :=
  { negated := c.negated, pending := some (op, c.body f) }

/-- The set of the closed class. -/
def close (f : Flags) (c : OpenClass) : Option NestedSet :=
  let body := c.body f
  let s := f.fold body.set
  (if c.negated then f.negate s else some s).map (⟨·, body.depth + 1⟩)

end OpenClass

/-- A named class, after its bracket, and whether it is negated: `:name:]` or `:^name:]`. -/
def readNamedClass (cs : List Char) : Option (CharSet × Bool × List Char) :=
  match cs with
  | ':' :: cs =>
    let (negated, cs) := match cs with
      | '^' :: rest => (true, rest)
      | cs => (false, cs)
    match cs.dropWhile (· != ':') with
    | ':' :: ']' :: rest =>
      (CharSet.named? (String.ofList (cs.takeWhile (· != ':')))).map (·, negated, rest)
    | _ => none
  | _ => none

/-- The hyphens that stand first in a class, which are members. -/
def readHyphens (f : Flags) (c : OpenClass) (cs : List Char) : OpenClass × List Char :=
  match cs with
  | '-' :: rest =>
    have := f.length_skip_le rest
    readHyphens f (c.add (.single '-') 0) (f.skip rest)
  | cs => (c, cs)
termination_by cs.length
decreasing_by
  simp only [List.length_cons]
  omega

/-- The start of a class, after its bracket: an optional caret, hyphens, and a closing bracket that
stands first and is then a member. -/
def openClass (f : Flags) (cs : List Char) : OpenClass × List Char :=
  let (negated, cs) := match f.skip cs with
    | '^' :: rest => (true, f.skip rest)
    | cs => (false, cs)
  match cs with
  | ']' :: rest => (OpenClass.add { negated } (.single ']') 0, f.skip rest)
  | cs => readHyphens f { negated } cs

/-- One member of a class, without its range. -/
def readMember (f : Flags) : List Char → Option (Atom × List Char)
  | [] => none
  | '\\' :: cs => readEscape f cs
  | c :: cs => some (.char c, cs)

/-- A member of a class or a range of members. A hyphen before the closing bracket, or before
another hyphen, makes no range. Where only ASCII is spoken of, other characters are no members. -/
def readMembers (f : Flags) (cs : List Char) : Option (CharSet × List Char) := do
  let (first, rest) ← readMember f cs
  let rest := f.skip rest
  let allowed (c : Char) : Bool := !f.isAscii || decide (c.toNat < 0x80)
  let alone : Option (CharSet × List Char) := match first with
    | .char c => if allowed c then some (.single c, rest) else none
    | .set s => some (s, rest)
    | .test _ => none
  match rest with
  | '-' :: more =>
    let next := f.afterHyphen more
    if next = some ']' ∨ next = some '-' then alone
    else
      let (last, rest) ← readMember f (f.skip more)
      match first, last with
      | .char a, .char b =>
        if a ≤ b && allowed a && allowed b then some (.range a.toNat b.toNat, rest) else none
      | _, _ => none
  | _ => alone

/-- One step of reading a class whose open brackets are given from the inside out: the brackets
open after it, or the whole set once the outermost is closed. -/
def readClassStep (f : Flags) (inner : OpenClass) (outer : List OpenClass) (cs : List Char) :
    Option ((OpenClass × List OpenClass ⊕ NestedSet) × List Char) :=
  match f.skip cs with
  | [] => none
  | '[' :: rest =>
    match readNamedClass rest with
    | some (s, negated, rest) => do
      let s := f.fold s
      let s ← if negated then f.negate s else some s
      some (.inl (inner.add s 0, outer), rest)
    | none =>
      let (c, rest) := openClass f rest
      some (.inl (c, inner :: outer), rest)
  | ']' :: rest => do
    let s ← inner.close f
    match outer with
    | [] => some (.inr s, rest)
    | c :: outer => some (.inl (c.add s.set s.depth, outer), rest)
  | '&' :: '&' :: rest => some (.inl (inner.operate f .inter, outer), rest)
  | '-' :: '-' :: rest => some (.inl (inner.operate f .difference, outer), rest)
  | '~' :: '~' :: rest => some (.inl (inner.operate f .symmetric, outer), rest)
  | cs => (readMembers f cs).map fun (s, rest) => (.inl (inner.add s 0, outer), rest)

/-- Reads a class to the end of its outermost bracket. Every step takes a character, so as many
steps as there are characters are enough. -/
def readClass (f : Flags) :
    Nat → OpenClass → List OpenClass → List Char → Option (NestedSet × List Char)
  | 0, _, _, _ => none
  | steps + 1, inner, outer, cs =>
    match readClassStep f inner outer cs with
    | none => none
    | some (.inr s, rest) => some (s, rest)
    | some (.inl (inner, outer), rest) => readClass f steps inner outer rest

end BranchLR.Pattern
