import BranchLR.Pattern.Expr

/-!
# The weight of expressions

An expression weighs what an automaton for its matches over UTF-8 bytes would take up, in bytes of
memory. The weight is worked out from the expression without building the automaton: a repetition
weighs its body as many times as it stands in a row. Expressions that weigh too much are refused.
-/

namespace BranchLR.Pattern

/-- The memory of a state and of what it refers to. -/
structure Memory where
  state : Nat
  /-- One of the successors of a state with several. -/
  successor : Nat
  /-- One of the byte ranges of a state with several. -/
  byteRange : Nat

/-- The memory that weights are counted in. -/
def Memory.standard : Memory := ⟨32, 4, 8⟩

open Memory (standard)

namespace CharSet

/-- The ranges of code points whose UTF-8 forms have one length. Surrogates have none. -/
def encodedAlike : List (Nat × Nat) :=
  [(0x00, 0x7F), (0x80, 0x7FF), (0x800, 0xD7FF), (0xE000, 0xFFFF), (0x10000, 0x10FFFF)]

/-- The bytes of the UTF-8 form of a code point. -/
def utf8Bytes (n : Nat) : List Nat :=
  let tail (shift : Nat) : Nat := 0x80 + n / shift % 0x40
  if n < 0x80 then [n]
  else if n < 0x800 then [0xC0 + n / 0x40, tail 1]
  else if n < 0x10000 then [0xE0 + n / 0x1000, tail 0x40, tail 1]
  else [0xF0 + n / 0x40000, tail 0x1000, tail 0x40, tail 1]

/-- Splits a range at the ends of blocks of the given size into a part of a block, whole blocks and
a part of a block. -/
def splitBlocks (size : Nat) (r : Nat × Nat) : List (Nat × Nat) :=
  let (a, b) := r
  if b < 0x80 ∨ a / size = b / size then [r]
  else
    let first := if a % size = 0 then a else (a / size + 1) * size
    let last := if (b + 1) % size = 0 then b + 1 else b / size * size
    (if a < first then [(a, first - 1)] else []) ++
      (if first < last then [(first, last - 1)] else []) ++
      if last ≤ b then [(last, b)] else []

/-- The byte ranges that make up the UTF-8 forms of the members, in ascending order. In every row,
any choice of one byte from each range is the form of a member. -/
def byteRows (s : CharSet) : List (List (Nat × Nat)) :=
  let pieces := (overlaps s.ranges encodedAlike).flatMap (splitBlocks 0x40)
  let pieces := (pieces.flatMap (splitBlocks 0x1000)).flatMap (splitBlocks 0x40000)
  pieces.map fun (a, b) => (utf8Bytes a).zip (utf8Bytes b)

/-- The number of entries that two rows begin with in common. -/
def commonLength : List (Nat × Nat) → List (Nat × Nat) → Nat
  | r :: rs, s :: ss => if r = s then commonLength rs ss + 1 else 0
  | _, _ => 0

/-- The weight of some rows of byte ranges: a state for every range that is not shared with the row
before. -/
def weighRows (previous : List (Nat × Nat)) : List (List (Nat × Nat)) → Nat
  | [] => 0
  | row :: rest =>
    standard.successor + standard.state * (row.length - commonLength previous row) +
      weighRows row rest

/-- The weight of taking a member of a set. -/
def weight (s : CharSet) : Nat :=
  match s.ranges with
  | [(a, b)] => if a = b then standard.state * (utf8Bytes a).length else several
  | _ => several
where
  several : Nat :=
    2 * standard.state +
      if s.isAscii then standard.byteRange * s.ranges.length else weighRows [] s.byteRows

end CharSet

namespace Expr

/-- The weight of a state with two successors. -/
def fork : Nat := standard.state + 2 * standard.successor

/-- The weight of an expression, which may be one of the branches of a choice. -/
def weight (branch : Bool) : Expr → Nat
  | either a b =>
    (if branch then 0 else 2 * standard.state) + a.weight true + b.weight true
  | nothing => standard.state + entry
  | one set => set.weight + entry
  | test _ => standard.state + entry
  | both a b => a.weight false + b.weight false + entry
  | group e => 2 * standard.state + e.weight false + entry
  | times e least most =>
    let body := e.weight false
    let repetition := match most with
      | none =>
        if least = 0 then
          if e.least?.any (0 < ·) then body + fork else body + 2 * fork + standard.state
        else least * body + fork
      | some m =>
        if least = m then least * body
        else if m = 1 then body + fork + standard.state
        else
          (if least = 0 then standard.state else least * body) + standard.state +
            (m - least) * (body + fork)
    repetition + entry
where
  entry : Nat := if branch then standard.successor else 0

/-- The greatest weight of a pattern. -/
def weightLimit : Nat := 10485760

/-- Whether an expression can be used as a pattern: together with a beginning, an end and the marks
around the whole match it stays below the limit. -/
def isLight (e : Expr) : Bool := decide (e.weight false + 4 * standard.state ≤ weightLimit)

end Expr

end BranchLR.Pattern
