import BranchLR.BuiltTable
import BranchLR.Search.Failure
import BranchLR.Search.Stack

/-!
# Log events

What reading a grammar, building its table and searching for a parse report on the way. An event is
a level, a message and named values; actions are shown in a long form that tells every rule apart.
-/

namespace BranchLR

variable [RegexLibrary]

/-- Shown values between brackets, separated by commas. -/
def listed : List String → String
  | [] => "[]"
  | text :: rest => "[" ++ rest.foldl (fun sofar next => sofar ++ ", " ++ next) text ++ "]"

namespace Rule

mutual

/-- A rule in its long form. -/
def inspect : Rule → String
  | item name => "Item(" ++ quoted name ++ ")"
  | literal text => "String(" ++ quoted text ++ ")"
  | pattern p =>
    "Regex(Pattern \x7b source: " ++ quoted p.source ++ ", regex: Regex(" ++
      quoted (Pattern.anchored p.source) ++ ") \x7d)"
  | empty => "Special(Empty)"
  | endOfInput => "Special(Eof)"
  | optional body =>
    "Bracket(Bracket \x7b repeat: false, rules: " ++ listed (inspectAll body) ++ " \x7d)"
  | repeated body =>
    "Bracket(Bracket \x7b repeat: true, rules: " ++ listed (inspectAll body) ++ " \x7d)"

/-- Rules in their long form. -/
def inspectAll : List Rule → List String
  | [] => []
  | r :: rest => r.inspect :: inspectAll rest

end

end Rule

/-- A production in its long form. -/
def Production.inspect (p : Production) : String :=
  "Production \x7b item: " ++ quoted p.item ++ ", rules: " ++ listed (Rule.inspectAll p.rules) ++
    " \x7d"

/-- An action in its long form. -/
def Action.inspect : Action → String
  | shift row => "Shift(" ++ toString row ++ ")"
  | reduce production => "Reduce(" ++ production.inspect ++ ")"
  | accept => "Accept"

/-- A value that may be missing in its long form. -/
def inspectOption (text : Option String) : String :=
  match text with
  | none => "None"
  | some text => "Some(" ++ text ++ ")"

/-- What is reported on the way. -/
inductive Event where
  | grammarRead (items : Nat) (start : Option String)
  | tableBuilt (start : String) (states productions : Nat)
  | shift (row : Nat) (symbol : Symbol) (candidates : Nat)
  | noShift (row : Nat) (symbol : Symbol)
  | reduce (production : Production) (row candidates : Nat)
  | noReduce (production : Production)
  | noRow (production : Production)
  | noGoto (production : Production) (row : Nat)
  | checkpointEvicted (horizon : Nat)
  | nextCandidate (action : Option Action)
  | backtrack (checkpoints : Nat) (action : Option Action)
  | accepted (steps tokens : Nat)
  | rejected (steps : Nat) (failure : ParseFailure)
  | stepLimitReached (limit : Nat)
  deriving DecidableEq

namespace Event

/-- An event as it is logged. -/
def render : Event → String
  | grammarRead items start =>
    "DEBUG read grammar items=" ++ toString items ++ " start=" ++ inspectOption (start.map quoted)
  | tableBuilt start states productions =>
    "DEBUG built LR(0) table start=" ++ start ++ " states=" ++ toString states ++
      " productions=" ++ toString productions
  | shift row symbol candidates =>
    "TRACE shift row=" ++ toString row ++ " token=" ++ symbol.render ++
      " candidates=" ++ toString candidates
  | noShift row symbol => "TRACE no shift row=" ++ toString row ++ " token=" ++ symbol.render
  | reduce production row candidates =>
    "TRACE reduce production=" ++ production.render ++ " row=" ++ toString row ++
      " candidates=" ++ toString candidates
  | noReduce production => "TRACE no reduce production=" ++ production.render
  | noRow production => "TRACE no row to continue from production=" ++ production.render
  | noGoto production row =>
    "TRACE no goto production=" ++ production.render ++ " row=" ++ toString row
  | checkpointEvicted horizon => "TRACE checkpoint evicted horizon=" ++ toString horizon
  | nextCandidate action =>
    "TRACE next candidate action=" ++ inspectOption (action.map Action.inspect)
  | backtrack checkpoints action =>
    "TRACE backtrack checkpoints=" ++ toString checkpoints ++
      " action=" ++ inspectOption (action.map Action.inspect)
  | accepted steps tokens =>
    "DEBUG accepted steps=" ++ toString steps ++ " tokens=" ++ toString tokens
  | rejected steps failure =>
    "DEBUG rejected steps=" ++ toString steps ++ " error=" ++ failure.message
  | stepLimitReached limit => "DEBUG step limit reached steps=" ++ toString limit

/-- What reading a grammar reports. -/
def ofGrammar {ε : Type} : Except ε Grammar → List Event
  | .ok g => [grammarRead g.items.length g.start]
  | .error _ => []

/-- What building a table reports. -/
def ofTable {ε : Type} : Except ε BuiltTable → List Event
  | .ok b => [tableBuilt b.acceptItem b.rows.size b.productions.length]
  | .error _ => []

end Event

end BranchLR
