import BranchLR.Automaton
import BranchLR.Table

/-!
# Tables built from grammars

The table of a grammar follows the automaton of its flat productions. Row `r` has a guard for every
transition of state `r`, and its candidates are what may happen in the state that the transition
leads to: go on from there, reduce by a production that is complete there, or accept. Conflicts are
kept as several candidates.
-/

namespace BranchLR

variable [RegexLibrary]

/-- Why no table can be built. -/
inductive TableError where
  | noStartItem
  | unknownStartItem (name : String)
  | tokenStartItem (name : String)
  | undefinedItem (item referencedBy : String)
  deriving DecidableEq

/-- The error as it is reported. -/
def TableError.message : TableError → String
  | noStartItem => "the grammar has no start item"
  | unknownStartItem name => "the start item '" ++ name ++ "' does not exist"
  | tokenStartItem name => "the start item '" ++ name ++ "' is a token"
  | undefinedItem item referencedBy =>
    "item '" ++ referencedBy ++ "' refers to undefined item '" ++ item ++ "'"

/-- What is built from a grammar: the parts of a table, with its rows in order, and the productions
it was built from. -/
structure BuiltTable where
  initial : List Action
  rows : Array Row
  acceptItem : String
  productions : List Production

namespace BuiltTable

/-- The table that was built. -/
def table (b : BuiltTable) : Table := .ofRows b.initial b.rows b.acceptItem

/-- Rows as they are shown, counted from the given number. -/
def renderRows (number : Nat) : List Row → String
  | [] => ""
  | row :: rest => "row " ++ toString number ++ ":\n" ++ row.render ++ renderRows (number + 1) rest

/-- A table as it is shown. -/
def render (b : BuiltTable) : String :=
  "initial: " ++ Action.renderAll b.initial ++ "\n" ++ renderRows 0 b.rows.toList

/-- The productions of an automaton: number zero starts it, and the others follow in their order. -/
def numbered (start : String) (productions : List Production) : Array Production :=
  (⟨"", [.item start]⟩ :: productions).toArray

/-- Whether an item can be referred to: it is a token or has productions. -/
def isDefined (g : Grammar) (productions : List Production) (name : String) : Bool :=
  (g.tokenItem? name).isSome || productions.any fun p => p.item == name

/-- The first reference of a production to an item that is not defined. -/
def undefinedIn (g : Grammar) (productions : List Production) (p : Production) :
    Option TableError :=
  p.rules.findSome? fun
    | .item name =>
      if isDefined g productions name then none else some (.undefinedItem name p.item)
    | _ => none

/-- The reductions that are complete in a state, in the order of its closure. -/
def reductions (ps : Array Production) (state : State) : List Action :=
  state.closure.filterMap fun d =>
    if d.production ≠ 0 ∧ Automaton.isComplete ps d then ps[d.production]?.map .reduce else none

/-- Whether the production that starts the automaton is complete in a state. -/
def accepts (ps : Array Production) (state : State) : Bool :=
  state.closure.any fun d => d.production == 0 && Automaton.isComplete ps d

/-- What may happen in the state with the given number: continue from its row, reduce by a
production it completes, or accept. -/
def candidates (ps : Array Production) (states : Array State) (number : Nat) : List Action :=
  match states[number]? with
  | none => []
  | some state =>
    (if state.transitions.isEmpty then [] else [.shift number]) ++
      reductions ps state ++ if accepts ps state then [.accept] else []

/-- The rows of an automaton: one for every state, with a guard for every transition. -/
def rowsOf (ps : Array Production) (states : Array State) : Array Row :=
  states.map fun state =>
    ⟨state.transitions.map fun (guard, number) => (guard, candidates ps states number)⟩

/-- Builds the table of a grammar from the given start item. -/
def withStart (g : Grammar) (start : String) : Except TableError BuiltTable :=
  match g.find? start with
  | none => .error (.unknownStartItem start)
  | some item =>
    if item.isToken then .error (.tokenStartItem start)
    else
      let productions := g.productions
      let ps := numbered start productions
      match ps.toList.findSome? (undefinedIn g productions) with
      | some e => .error e
      | none =>
        let states := (Automaton.states ps).toArray
        .ok ⟨candidates ps states 0, rowsOf ps states, start, productions⟩

/-- Builds the table of a grammar from the start item it has chosen. -/
def build (g : Grammar) : Except TableError BuiltTable :=
  match g.start with
  | none => .error .noStartItem
  | some start => withStart g start

end BuiltTable

end BranchLR
