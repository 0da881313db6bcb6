import BranchLR.Lexeme

/-!
# Input tokens

What a table is run over: tokens with a text, a position and the name of a lexical group. A place in
a stream of tokens is the number of tokens before it.
-/

namespace BranchLR

/-- A token of the input. -/
structure Token where
  group : String
  text : String
  position : Position
  deriving DecidableEq

/-- The tokens of an input, in order. -/
structure TokenStream where
  tokens : Array Token
  deriving DecidableEq

/-- The group of the tokens that a class of lexemes gives; white space and comments give none. -/
def LexemeKind.group? : LexemeKind → Option String
  | bracket => some "BRACKET"
  | operator => some "OPERATOR"
  | number => some "NUMBER"
  | name => some "IDENT"
  | quotation _ => some "STRING"
  | blank => none
  | comment => none

/-- The token that a lexeme gives. -/
def Lexeme.token? (x : Lexeme) : Option Token :=
  x.kind.group?.map fun group => ⟨group, String.ofList x.text, x.position⟩

namespace TokenStream

/-- The tokens of a text. -/
def lex [BracketSet] (text : String) : Except LexicalError TokenStream :=
  let scan := scan {} text
  match scan.error with
  | some e => .error e
  | none => .ok ⟨(scan.lexemes.filterMap Lexeme.token?).toArray⟩

/-- The number of tokens. -/
def size (s : TokenStream) : Nat := s.tokens.size

/-- The token ahead of a place. -/
def ahead (s : TokenStream) (place : Nat) : Option Token := s.tokens[place]?

/-- The token behind a place. -/
def behind (s : TokenStream) : Nat → Option Token
  | 0 => none
  | n + 1 => s.tokens[n]?

/-- The place after the token ahead. -/
def next? (s : TokenStream) (place : Nat) : Option Nat := (s.ahead place).map fun _ => place + 1

/-- The place before the token behind. -/
def previous? : Nat → Option Nat
  | 0 => none
  | n + 1 => some n

/-- The number of tokens ahead of a place. -/
def remaining (s : TokenStream) (place : Nat) : Nat := s.size - place

/-- The position of the last token; that of an empty text if there is none. -/
def lastPosition (s : TokenStream) : Position := (s.tokens.back?.map Token.position).getD .start

end TokenStream

end BranchLR
