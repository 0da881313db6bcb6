import BranchLR.Pattern.Class
import BranchLR.Text.Alphabetic
import BranchLR.Text.Numeric

/-!
# Reading patterns

The text form of pattern expressions: literal characters, `.`, classes in brackets, groups,
alternatives, repetitions, assertions and flags. Reading keeps the groups that are still open and
fails at the first construct that means nothing; look-around and back references are not part of
the language.
-/

namespace BranchLR.Pattern

/-! ### Repetitions -/

/-- A decimal number, with white space around it; missing if there is no digit. -/
def readDigits (f : Flags) (value : Option Nat) (cs : List Char) : Option Nat × List Char :=
  match cs with
  | [] => (value, [])
  | c :: rest =>
    have := f.length_skip_le rest
    if c.isDigit then readDigits f (some (10 * value.getD 0 + (c.toNat - 0x30))) (f.skip rest)
    else (value, cs)
termination_by cs.length
decreasing_by
  simp only [List.length_cons]
  omega

/-- The largest count of a repetition. -/
def largestCount : Nat := 0xFFFFFFFF

/-- A count of a repetition with the white space around it. -/
def readCount (f : Flags) (cs : List Char) : Option (Nat × List Char) :=
  match readDigits f none (cs.dropWhile isBlank) with
  | (some n, rest) => if n ≤ largestCount then some (n, rest.dropWhile isBlank) else none
  | (none, _) => none

/-- The counts of a repetition, after its opening brace: `n}`, `n,}` or `n,m}`. -/
def readCounts (f : Flags) (cs : List Char) : Option (Nat × Option Nat × List Char) := do
  let (least, rest) ← readCount f (f.skip cs)
  match rest with
  | '\x7d' :: rest => some (least, some least, rest)
  | ',' :: rest =>
    match f.skip rest with
    | '\x7d' :: rest => some (least, none, rest)
    | rest =>
      let (most, rest) ← readCount f rest
      match rest with
      | '\x7d' :: rest => if least ≤ most then some (least, some most, rest) else none
      | _ => none
  | _ => none

/-- Drops the mark that asks for the shortest match first. -/
def dropLazyMark : List Char → List Char
  | '?' :: rest => rest
  | cs => cs

/-! ### Groups -/

/-- The letters of a flag setting up to its end, which is a parenthesis or a colon. The flag
letters seen so far may not repeat, and the minus, which may stand once, needs a letter after it. -/
def readFlags (f : Flags) (seen : List Char) (minus dangling : Bool) :
    List Char → Option (Flags × List Char × List Char)
  | [] => none
  | c :: cs =>
    if c = ':' || c = ')' then if dangling then none else some (f, seen, c :: cs)
    else if c = '-' then if minus then none else readFlags f seen true true cs
    else if seen.contains c then none
    else match f.set c !minus with
      | none => none
      | some f => readFlags f (c :: seen) minus false cs

/-- Whether a character may stand first in the name of a group. -/
def isNameStart (c : Char) : Bool := c == '_' || isAlphabetic c

/-- Whether a character may stand in the name of a group. -/
def isNamePart (c : Char) : Bool :=
  c == '_' || c == '.' || c == '[' || c == ']' || isAlphabetic c || isNumeric c

/-- The name of a group up to its closing angle bracket. -/
def readName (cs : List Char) : Option (List Char × List Char) :=
  match cs.takeWhile (· != '>'), cs.dropWhile (· != '>') with
  | c :: name, _ :: rest =>
    if isNameStart c && name.all isNamePart then some (c :: name, rest) else none
  | _, _ => none

/-- A construct of a pattern with the depth to which constructs are nested in it. A flag setting is
a construct without an expression: it cannot be repeated. -/
structure Piece where
  expr? : Option Expr
  depth : Nat

namespace Piece

/-- Several constructs are one level deeper than the deepest of them. -/
def depthOf : List Piece → Nat
  | [] => 0
  | [p] => p.depth
  | ps => ps.foldl (fun d p => max d p.depth) 0 + 1

/-- Constructs in a row. -/
def sequence (ps : List Piece) : Piece := ⟨some (.sequence (ps.filterMap expr?)), depthOf ps⟩

/-- A choice between constructs. -/
def choice (ps : List Piece) : Piece := ⟨some (.choice (ps.filterMap expr?)), depthOf ps⟩

end Piece

/-- The branches of a group that is still open: those finished, last first, and the constructs of
the one being read, last first. -/
structure Branches where
  finished : List Piece := []
  items : List Piece := []

namespace Branches

/-- The branch being read. -/
def branch (b : Branches) : Piece := .sequence b.items.reverse

/-- Finishes a branch. -/
def bar (b : Branches) : Branches := ⟨b.branch :: b.finished, []⟩

/-- The contents of the closed group. -/
def close (b : Branches) : Piece := .choice (b.branch :: b.finished).reverse

/-- The branches with one more construct. -/
def add (b : Branches) (p : Piece) : Branches := { b with items := p :: b.items }

/-- The branches with their last construct repeated. -/
def repeatLast (b : Branches) (least : Nat) (most : Option Nat) : Option Branches :=
  match b.items with
  | ⟨some e, depth⟩ :: items =>
    some { b with items := ⟨some (.repeated e least most), depth + 1⟩ :: items }
  | _ => none

end Branches

/-- A group that is still open around another: the flags to which it returns after it, its branches,
and whether the inner group can be asked for on its own. -/
structure OuterGroup where
  flags : Flags
  branches : Branches
  remembers : Bool

/-- What has been read of a pattern: the flags in force, the innermost open group, the groups
around it, and the names given to groups. -/
structure Reading where
  flags : Flags := {}
  inner : Branches := {}
  outer : List OuterGroup := []
  names : List (List Char) := []

namespace Reading

/-- Adds a construct to the innermost group. -/
def add (r : Reading) (e : Expr) (depth : Nat) : Reading :=
  { r with inner := r.inner.add ⟨some e, depth⟩ }

/-- Opens a group under the given flags. -/
def openGroup (r : Reading) (f : Flags) (remembers : Bool) : Reading :=
  { r with flags := f, inner := {}, outer := ⟨r.flags, r.inner, remembers⟩ :: r.outer }

/-- Closes the innermost group. -/
def closeGroup (r : Reading) : Option Reading :=
  match r.outer with
  | [] => none
  | g :: outer =>
    let contents := r.inner.close
    let e := if g.remembers then contents.expr?.map .group else contents.expr?
    some { r with
      flags := g.flags
      inner := g.branches.add ⟨e, contents.depth + 1⟩
      outer }

/-- The expression of a construct without operators under the current flags. -/
def addAtom (r : Reading) : Atom → Reading
  | .char c => r.add (.one (r.flags.foldChar c)) 0
  | .set s => r.add (.one s) 0
  | .test a => r.add (.test a) 0

/-- What follows an opening parenthesis. -/
def readGroup (r : Reading) (cs : List Char) : Option (Reading × List Char) :=
  let named (cs : List Char) : Option (Reading × List Char) := do
    let (name, rest) ← readName cs
    if r.names.contains name then none
    else some ({ r.openGroup r.flags true with names := name :: r.names }, rest)
  match r.flags.skip cs with
  | '?' :: 'P' :: '<' :: rest => named rest
  | '?' :: '<' :: rest =>
    match rest with
    | '=' :: _ => none
    | '!' :: _ => none
    | _ => named rest
  | '?' :: rest =>
    match readFlags r.flags [] false false rest with
    | some (f, _, ':' :: rest) => some (r.openGroup f false, rest)
    | some (f, _ :: _, ')' :: rest) =>
      some ({ r with flags := f, inner := r.inner.add ⟨none, 0⟩ }, rest)
    | _ => none
  | rest => some (r.openGroup r.flags true, rest)

/-- Repeats the last construct. -/
def repeatLast (r : Reading) (least : Nat) (most : Option Nat) (cs : List Char) :
    Option (Reading × List Char) :=
  (r.inner.repeatLast least most).map fun b => ({ r with inner := b }, dropLazyMark cs)

/-- Reads one construct, whose first character is given apart. -/
def step (r : Reading) (c : Char) (cs : List Char) : Option (Reading × List Char) :=
  match c with
  | '(' => r.readGroup cs
  | ')' => r.closeGroup.map (·, cs)
  | '|' => some ({ r with inner := r.inner.bar }, cs)
  | '[' =>
    let (c, rest) := openClass r.flags cs
    (readClass r.flags (rest.length + 1) c [] rest).map fun (s, rest) =>
      (r.add (.one s.set) s.depth, rest)
  | '?' => r.repeatLast 0 (some 1) cs
  | '*' => r.repeatLast 0 none cs
  | '+' => r.repeatLast 1 none cs
  | '\x7b' => do
    let (least, most, rest) ← readCounts r.flags cs
    r.repeatLast least most (r.flags.skip rest)
  | '\\' => (readEscape r.flags cs).map fun (a, rest) => (r.addAtom a, rest)
  | '.' => r.flags.dot.map fun s => (r.add (.one s) 0, cs)
  | '^' => some (r.add (.test r.flags.caret) 0, cs)
  | '$' => some (r.add (.test r.flags.dollar) 0, cs)
  | c => some (r.addAtom (.char c), cs)

/-- Reads the rest of a pattern. Every construct takes a character, so as many steps as there are
characters, and one for their end, are enough. -/
def finish : Nat → Reading → List Char → Option Piece
  | 0, _, _ => none
  | steps + 1, r, cs =>
    match r.flags.skip cs with
    | [] => if r.outer.isEmpty then some r.inner.close else none
    | c :: tail =>
      match r.step c tail with
      | none => none
      | some (r, rest) => finish steps r rest

end Reading

/-- The depth to which constructs may be nested. -/
def nestLimit : Nat := 250

/-- The expression that a text stands for. -/
def Expr.read? (cs : List Char) : Option Expr := do
  let p ← Reading.finish (cs.length + 1) {} cs
  if p.depth ≤ nestLimit then p.expr? else none

end BranchLR.Pattern
