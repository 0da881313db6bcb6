import BranchLR.Grammar

/-!
# Writing grammars

A grammar is written one item per line, with its start item on the last line. String literals stand
in single quotes and patterns in double quotes; in a string literal a backslash is escaped as well
as the mark, in a pattern only the mark is.
-/

namespace BranchLR

variable [RegexLibrary]

/-- A text between two marks. The mark inside it is escaped, and a backslash too if that is asked
for. -/
def betweenMarks (mark : Char) (escapeBackslash : Bool) (text : String) : String :=
  String.ofList (mark :: (text.toList.flatMap fun c =>
    if c == mark || (escapeBackslash && c == '\\') then ['\\', c] else [c]) ++ [mark])

/-- A pattern as it is written in a grammar text. -/
def Pattern.render (p : Pattern) : String := "\x7b" ++ betweenMarks '"' false p.source ++ "\x7d"

namespace Rule

mutual

/-- A rule as it is written in a grammar text. -/
def render : Rule → String
  | item name => name
  | literal text => betweenMarks '\'' true text
  | pattern p => p.render
  | empty => "\x7bEMPTY\x7d"
  | endOfInput => "\x7bEOF\x7d"
  | optional body => "( " ++ renderAll body ++ " )"
  | repeated body => "[ " ++ renderAll body ++ " ]"

/-- Rules in a row, separated by spaces. -/
def renderAll : List Rule → String
  | [] => ""
  | [r] => r.render
  | r :: rest => r.render ++ " " ++ renderAll rest

end

end Rule

namespace Item

/-- Alternatives in a row, separated by bars. -/
def renderAlternatives : List (List Rule) → String
  | [] => ""
  | [alternative] => " " ++ Rule.renderAll alternative
  | alternative :: rest => " " ++ Rule.renderAll alternative ++ " |" ++ renderAlternatives rest

/-- An item as it is written in a grammar text. -/
def render (item : Item) : String :=
  match item.kind with
  | .imported => "ITOKEN " ++ item.name
  | .token => "TOKEN " ++ item.name ++ ":" ++ renderAlternatives item.alternatives
  | .rule => item.name ++ ":" ++ renderAlternatives item.alternatives

end Item

namespace Grammar

/-- Items in a row, each on a line. -/
def renderItems : List Item → String
  | [] => ""
  | item :: rest => item.render ++ "\n" ++ renderItems rest

/-- A grammar as a text that can be read. -/
def render (g : Grammar) : String :=
  renderItems g.items ++
    match g.start with
    | none => ""
    | some name => "START " ++ name ++ "\n"

end Grammar

end BranchLR
