import BranchLR.GrammarText.Reader
import BranchLR.Search.Run

/-!
# From texts to trees

The whole way: a grammar text is read, its table is built, an input text is divided into tokens, and
the table is run over them. The error of the first stage that fails is the result.
-/

namespace BranchLR

variable [RegexLibrary] [BracketSet]

/-- Which stage failed, and why. -/
inductive StageError where
  | grammar (e : GrammarText.SyntaxError)
  | table (e : TableError)
  | input (e : LexicalError)
  | parse (e : ParseFailure)
  deriving DecidableEq

/-- The error as it is reported. -/
def StageError.message : StageError → String
  | grammar e => "grammar: " ++ e.message
  | table e => "table: " ++ e.message
  | input e => "input: " ++ e.message
  | parse e => "parse: " ++ e.message

/-- The search that a grammar text and an input text pose. -/
def Problem.ofTexts (grammar input : String) : Except StageError Problem :=
  match Grammar.read grammar with
  | .error e => .error (.grammar e)
  | .ok g =>
    match BuiltTable.build g with
    | .error e => .error (.table e)
    | .ok built =>
      match TokenStream.lex input with
      | .error e => .error (.input e)
      | .ok tokens => .ok ⟨g, built.table, tokens, ({} : Config).horizon⟩

/-- Parses an input text by a grammar text. -/
def parse (grammar input : String) : Except StageError Forest :=
  match Problem.ofTexts grammar input with
  | .error e => .error e
  | .ok p =>
    match p.solve defaultStepLimit with
    | .error e => .error (.parse e)
    | .ok forest => .ok forest

end BranchLR
