import BranchLR.Production

/-!
# Action tables

A table tells which actions may follow once a symbol has been pushed on the stack. Each row maps
guarding rules to lists of candidate actions; the candidates are tried in their order, and nothing
says that there is only one. Tables are built from a grammar or written by hand.
-/

namespace BranchLR

variable [RegexLibrary]

/-- What may be done next. -/
inductive Action where
  /-- Continue from the given row with the next token. -/
  | shift (row : Nat)
  /-- Replace the symbols of the production's rules by its item. -/
  | reduce (production : Production)
  /-- The stack may hold a complete parse. -/
  | accept
  deriving DecidableEq

namespace Action

/-- The row that a shift continues from. -/
def row? : Action → Option Nat
  | shift row => some row
  | _ => none

/-- An action as it is shown. -/
def render : Action → String
  | shift row => "shift " ++ toString row
  | reduce production => "reduce " ++ production.render
  | accept => "accept"

/-- Actions in a row, separated by commas. -/
def renderAll : List Action → String
  | [] => ""
  | [a] => a.render
  | a :: rest => a.render ++ ", " ++ renderAll rest

end Action

/-- The guards of one row with their candidates, in the order in which they were added. -/
structure Row where
  entries : List (Rule × List Action) := []
  deriving DecidableEq

namespace Row

/-- The candidates under a guard. -/
def candidatesFor (row : Row) (guard : Rule) : Option (List Action) :=
  (row.entries.find? fun entry => entry.1 == guard).map Prod.snd

/-- The entries with new candidates for a guard, in its place if it is there and at the end if it is
not. -/
def insertEntry (guard : Rule) (actions : List Action) :
    List (Rule × List Action) → List (Rule × List Action)
  | [] => [(guard, actions)]
  | entry :: rest =>
    if entry.1 = guard then (guard, actions) :: rest
    else entry :: insertEntry guard actions rest

/-- The row with new candidates for a guard. -/
def insert (row : Row) (guard : Rule) (actions : List Action) : Row :=
  ⟨insertEntry guard actions row.entries⟩

/-- An entry as it is shown. -/
def renderEntry (entry : Rule × List Action) : String :=
  entry.1.render ++ " => " ++ Action.renderAll entry.2

/-- A row as it is shown, one entry per line. -/
def render (row : Row) : String :=
  row.entries.foldl (fun text entry => text ++ "    " ++ renderEntry entry ++ "\n") ""

end Row

/-- The candidates at the bottom of the stack, the rows by their numbers, and the item that a
complete parse reduces to. Not every number needs to have a row. -/
structure Table where
  initial : List Action
  row? : Nat → Option Row
  acceptItem : String

/-- The table whose rows are numbered in their order. -/
def Table.ofRows (initial : List Action) (rows : Array Row) (acceptItem : String) : Table :=
  ⟨initial, fun number => rows[number]?, acceptItem⟩

end BranchLR
