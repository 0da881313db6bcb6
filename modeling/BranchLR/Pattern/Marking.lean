import BranchLR.Pattern.Expr

/-!
# Matching

A match is followed through a text by marking, in the expression itself, the characters that may
just have been taken. One step goes over the expression once: it moves the marks over the next
character and works out, from the inside out, which parts match without taking a character at the
new place and which parts have a match that ends there. A text is thus read once, whatever the
expression, and parts that no match has reached are passed by.
-/

namespace BranchLR.Pattern

/-- What can be said of a part of an expression at a place of a text. -/
structure Standing where
  /-- It matches there without taking a character. -/
  passes : Bool
  /-- A match that began earlier ends there. -/
  ends : Bool
  /-- No character of it may just have been taken, and it asks nothing of the place. -/
  rests : Bool

/-- An expression at a place of a text. Repetitions are written out, up to those without end. -/
inductive Marked where
  | nothing
  | test (a : Assertion) (holds : Bool)
  /-- Takes one character of the set; `taken` tells whether the last one may have been it. -/
  | one (set : CharSet) (taken : Bool)
  | both (s : Standing) (first second : Marked)
  | either (s : Standing) (first second : Marked)
  /-- Matches once or more. -/
  | loop (s : Standing) (body : Marked)

namespace Marked

/-- What can be said of an expression at its place. -/
def standing : Marked → Standing
  | nothing => ⟨true, false, true⟩
  | test _ holds => ⟨holds, false, false⟩
  | one _ taken => ⟨false, taken, !taken⟩
  | both s _ _ => s
  | either s _ _ => s
  | loop s _ => s

/-- One expression after the other. -/
def andThen (p q : Marked) : Marked :=
  let s := p.standing
  let t := q.standing
  both ⟨s.passes && t.passes, t.ends || s.ends && t.passes, s.rests && t.rests⟩ p q

/-- One expression or the other. -/
def orElse (p q : Marked) : Marked :=
  let s := p.standing
  let t := q.standing
  either ⟨s.passes || t.passes, s.ends || t.ends, s.rests && t.rests⟩ p q

/-- An expression once or more. -/
def onceOrMore (p : Marked) : Marked := loop p.standing p

/-- An expression so many times in a row, halving the number so that the result is shallow. -/
def power (p : Marked) (n : Nat) : Marked :=
  if n = 0 then nothing
  else if n = 1 then p
  else (p.power (n / 2)).andThen (p.power (n - n / 2))
termination_by n
decreasing_by all_goals omega

/-- An expression at a place where no character has been taken, given the characters around it. -/
def start (before after : Option Char) : Expr → Marked
  | .nothing => nothing
  | .one set => one set false
  | .test a => test a (a.holds before after)
  | .both a b => (start before after a).andThen (start before after b)
  | .either a b => (start before after a).orElse (start before after b)
  | .group e => start before after e
  | .times e least most =>
    let p := start before after e
    match most with
    | some m => (p.power least).andThen ((nothing.orElse p).power (m - least))
    | none =>
      if least = 0 then nothing.orElse p.onceOrMore
      else (p.power (least - 1)).andThen p.onceOrMore

/-- Moves over the character `c` to the place between `before` and `after`. A match may begin at the
old place if `entered`. A part that rests and is not entered stays as it is. -/
def step (c : Char) (before after : Option Char) (entered : Bool) (p : Marked) : Marked :=
  if !entered && p.standing.rests then p
  else match p with
    | nothing => nothing
    | test a _ => test a (a.holds before after)
    | one set _ => one set (entered && set.contains c)
    | both _ p q =>
      let s := p.standing
      (p.step c before after entered).andThen
        (q.step c before after (s.ends || entered && s.passes))
    | either _ p q => (p.step c before after entered).orElse (q.step c before after entered)
    | loop s p => (p.step c before after (entered || s.ends)).onceOrMore

/-- Whether a match ends at the place, also one that takes no character. -/
def isMatched (p : Marked) : Bool := p.standing.passes || p.standing.ends

/-- Whether a match ends at the place or further on in the text that follows it. -/
def findsMatch (p : Marked) : List Char → Bool
  | [] => p.isMatched
  | c :: cs => p.isMatched || (p.step c (some c) cs.head? true).findsMatch cs

end Marked

/-- Whether some part of a text matches. -/
def Expr.occursIn (e : Expr) (text : List Char) : Bool :=
  (Marked.start none text.head? e).findsMatch text

end BranchLR.Pattern
