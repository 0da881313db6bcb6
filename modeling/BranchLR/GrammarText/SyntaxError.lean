import BranchLR.Grammar
import BranchLR.Lexeme

/-!
# Errors in grammar texts

Every error names the place in the text where it is found and its cause.
-/

namespace BranchLR.GrammarText

/-- What is wrong with a grammar text. -/
inductive SyntaxFault where
  | invalidWord (text : String)
  | unterminatedQuote
  | duplicateItem (name : String)
  | emptyAlternative
  | emptyBracket
  | mismatchedBracket (found : String)
  | unclosedBracket
  | barInsideBracket
  | unknownStartItem (name : String)
  | expectedItemName (keyword found : String)
  | malformedBrace (found : String)
  /-- The source does not compile, for the given reason. -/
  | invalidPattern (source reason : String)
  | patternOutsideToken
  | ruleOutsideItem (found : String)
  | importedTokenBody (name : String)
  | tokenBody (name : String)
  deriving DecidableEq

namespace SyntaxFault

/-- The fault as it is reported. -/
def message : SyntaxFault → String
  | invalidWord text => "invalid syntax '" ++ text ++ "'"
  | unterminatedQuote => "unterminated quotation"
  | duplicateItem name => "multiple definitions of the same item name '" ++ name ++ "'"
  | emptyAlternative => "empty rules are not allowed"
  | emptyBracket => "empty brackets are not allowed"
  | mismatchedBracket found => "invalid bracket close character '" ++ found ++ "'"
  | unclosedBracket => "bracket was not closed properly"
  | barInsideBracket => "alternatives cannot be split inside a bracket"
  | unknownStartItem name => "the start item '" ++ name ++ "' does not exist"
  | expectedItemName keyword found =>
    "invalid " ++ keyword ++ " argument, expected an item name got '" ++ found ++ "'"
  | malformedBrace found =>
    "invalid brace contents '" ++ found ++ "', expected a quoted regex, EMPTY or EOF"
  | invalidPattern source reason => "invalid regex '" ++ source ++ "': " ++ reason
  | patternOutsideToken => "regex matches are only allowed inside TOKEN items"
  | ruleOutsideItem found => "'" ++ found ++ "' is not inside an item definition"
  | importedTokenBody name => "imported token '" ++ name ++ "' cannot have rules"
  | tokenBody name => "token '" ++ name ++ "' only accepts a single string or regex per alternative"

/-- The fault in a text that makes a grammar refuse what the text adds to it. -/
def ofGrammarError : GrammarError → SyntaxFault
  | .duplicateItem name => duplicateItem name
  | .unknownStartItem name => unknownStartItem name
  | .importedTokenBody name => importedTokenBody name
  | .noAlternatives _ => emptyAlternative
  | .emptyAlternative _ => emptyAlternative

end SyntaxFault

/-- A fault and the place where it is found. -/
structure SyntaxError where
  position : Position
  fault : SyntaxFault
  deriving DecidableEq

namespace SyntaxError

/-- The error as it is reported. -/
def message (e : SyntaxError) : String := "(" ++ e.position.render ++ ") " ++ e.fault.message

/-- The error of a text that cannot be divided into lexemes. -/
def ofLexicalError : LexicalError → SyntaxError
  | .unterminatedQuote p => ⟨p, .unterminatedQuote⟩

end SyntaxError

end BranchLR.GrammarText
