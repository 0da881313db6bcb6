import BranchLR.Pattern.Assertion

/-!
# Pattern expressions

What a pattern says, once it has been read. The functions that put expressions together leave out
what changes nothing: empty parts of a sequence, choices between single characters, and repetitions
of what takes no character.
-/

namespace BranchLR.Pattern

/-- Pattern expressions. -/
inductive Expr where
  /-- Matches without taking a character. -/
  | nothing
  /-- Takes one character of the set. -/
  | one (set : CharSet)
  /-- Takes no character, where the condition holds. -/
  | test (a : Assertion)
  | both (first second : Expr)
  | either (first second : Expr)
  /-- Matches several times in a row, between the two counts. -/
  | times (e : Expr) (least : Nat) (most : Option Nat)
  /-- A part in parentheses that could be asked for on its own. -/
  | group (e : Expr)
  deriving Repr

namespace Expr

/-- Whether nothing is asked for. -/
def isNothing : Expr → Bool
  | nothing => true
  | _ => false

/-- The set of an expression that takes exactly one character. -/
def set? : Expr → Option CharSet
  | one set => some set
  | _ => none

/-- A bound from below on the number of characters taken, missing if a part takes a character of no
set. -/
def least? : Expr → Option Nat
  | nothing => some 0
  | one set => if set.ranges.isEmpty then none else some 1
  | test _ => some 0
  | both a b => do return (← a.least?) + (← b.least?)
  | either a b => do return min (← a.least?) (← b.least?)
  | times e least _ => e.least?.map (· * least)
  | group e => e.least?

/-- A bound from above on the number of characters taken, missing if there is none or a part takes
a character of no set. -/
def most? : Expr → Option Nat
  | nothing => some 0
  | one set => if set.ranges.isEmpty then none else some 1
  | test _ => some 0
  | both a b => do return (← a.most?) + (← b.most?)
  | either a b => do return max (← a.most?) (← b.most?)
  | times e _ most => do return (← e.most?) * (← most)
  | group e => e.most?

/-- Joins the expressions of a list by an operation, halving the list so that the result is
shallow. -/
def balanced (join : Expr → Expr → Expr) (es : List Expr) : Expr :=
  match es with
  | [] => nothing
  | [e] => e
  | e :: f :: rest =>
    let half := (rest.length + 2) / 2
    join (balanced join ((e :: f :: rest).take half)) (balanced join ((e :: f :: rest).drop half))
termination_by es.length
decreasing_by all_goals simp only [List.length_take, List.length_drop, List.length_cons]; omega

/-- The expressions of a list in a row. -/
def sequence (es : List Expr) : Expr := balanced both (es.filter fun e => !e.isNothing)

/-- Any one of the expressions. -/
def choice (es : List Expr) : Expr :=
  match es.mapM set? with
  | some sets => if sets.isEmpty then nothing else one (.unionAll sets)
  | none => balanced either es

/-- An expression several times in a row. What takes no character needs no second time. -/
def repeated (e : Expr) (least : Nat) (most : Option Nat) : Expr :=
  let (least, most) :=
    if e.most? = some 0 then (min least 1, some (min (most.getD 1) 1)) else (least, most)
  if most = some 0 then nothing
  else if least = 1 ∧ most = some 1 then e
  else times e least most

end Expr

end BranchLR.Pattern
