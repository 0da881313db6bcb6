import BranchLR.Forest
import BranchLR.Input
import BranchLR.Table

/-!
# The stack of a search

An entry of the stack holds the symbol that was pushed and the candidate actions from there on, as
those already tried and those still to try, of which the first is selected. A snapshot is a stack
with the forest built along it; it is a value, so keeping one keeps everything needed to return.
-/

namespace BranchLR

variable [RegexLibrary]

/-- What a stack entry was pushed for. -/
inductive Symbol where
  /-- The bottom of the stack. -/
  | bottom
  | terminal (token : Token)
  | endOfInput
  | reduced (item : String)
  deriving DecidableEq

/-- A symbol as it is shown. -/
def Symbol.render : Symbol → String
  | bottom => "\x7bSTART\x7d"
  | terminal token => quoted token.text
  | endOfInput => "\x7bEOF\x7d"
  | reduced item => item

/-- An entry of the stack. -/
structure Entry where
  symbol : Symbol
  /-- The candidates that were tried before the selected one, the last first. -/
  tried : List Action
  /-- The candidates still to try; the first is selected. -/
  untried : List Action
  /-- The place in the input behind the tokens consumed so far. -/
  place : Nat
  deriving DecidableEq

namespace Entry

/-- The selected candidate. -/
def selected (e : Entry) : Option Action := e.untried.head?

/-- The entry with its next candidate selected, if there is one. -/
def advance? (e : Entry) : Option Entry :=
  match e.untried with
  | a :: b :: rest => some { e with tried := a :: e.tried, untried := b :: rest }
  | _ => none

/-- Whether there is a candidate besides the selected one. -/
def isChoice (e : Entry) : Bool :=
  match e.untried with
  | _ :: _ :: _ => true
  | _ => false

/-- The row that the entry was pushed into: that of the last shift among the candidates up to the
selected one. Candidates are laid out as a shift and the reductions of its row. -/
def row? (e : Entry) : Option Nat := (e.selected.toList ++ e.tried).findSome? Action.row?

end Entry

/-- A stack, from its top entry down, with the forest built along it. -/
structure Snapshot where
  top : Entry
  below : List Entry
  forest : Forest
  deriving DecidableEq

namespace Snapshot

/-- The entries from the top down. -/
def stack (s : Snapshot) : List Entry := s.top :: s.below

/-- The snapshot with the next candidate of its top entry selected, if there is one. -/
def advance? (s : Snapshot) : Option Snapshot :=
  s.top.advance?.map fun top => { s with top }

end Snapshot

end BranchLR
