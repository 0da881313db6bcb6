import BranchLR.Lexeme

/-!
# The words of grammar texts

A grammar text is read as a sequence of words: keywords, delimiters, names, names that declare an
item, and quoted literals. White space and comments only keep words apart. A name declares an item
when a colon follows it with nothing but white space in between, and then the colon belongs to it.
-/

namespace BranchLR.GrammarText

/-- The words with a meaning of their own. -/
inductive Keyword where
  | token
  | imported
  | start
  deriving DecidableEq

/-- A keyword as it is written. -/
def Keyword.spelling : Keyword → String
  | token => "TOKEN"
  | imported => "ITOKEN"
  | start => "START"

/-- The punctuation of grammar texts. -/
inductive Delimiter where
  | parenOpen
  | parenClose
  | braceOpen
  | braceClose
  | squareOpen
  | squareClose
  | colon
  | bar
  deriving DecidableEq

namespace Delimiter

/-- The character of a delimiter. -/
def char : Delimiter → Char
  | parenOpen => '('
  | parenClose => ')'
  | braceOpen => '\x7b'
  | braceClose => '\x7d'
  | squareOpen => '['
  | squareClose => ']'
  | colon => ':'
  | bar => '|'

/-- The delimiter that a run of characters spells. -/
def ofChars? : List Char → Option Delimiter
  | ['('] => some parenOpen
  | [')'] => some parenClose
  | ['\x7b'] => some braceOpen
  | ['\x7d'] => some braceClose
  | ['['] => some squareOpen
  | [']'] => some squareClose
  | [':'] => some colon
  | ['|'] => some bar
  | _ => none

end Delimiter

/-- A word of a grammar text. -/
inductive Word where
  | keyword (k : Keyword)
  | delimiter (d : Delimiter)
  /-- A name that declares an item; its colon belongs to it. -/
  | itemName (name : String)
  | name (name : String)
  /-- A quotation: its mark and what stands between the marks, as it is written. -/
  | literal (mark : Char) (raw : String)
  /-- Anything that has no place in a grammar text. -/
  | invalid (text : String)
  deriving DecidableEq

namespace Word

/-- A word as error messages show it. -/
def render : Word → String
  | keyword k => k.spelling
  | delimiter d => d.char.toString
  | itemName s => s ++ ":"
  | name s => s
  | literal mark raw => mark.toString ++ raw ++ mark.toString
  | invalid s => s

/-- A word of letters that declares no item. -/
def ofSpelling : String → Word
  | "TOKEN" => keyword .token
  | "ITOKEN" => keyword .imported
  | "START" => keyword .start
  | s => name s

end Word

/-- How grammar texts are divided into lexemes: a number sign opens a comment, and a colon and a bar
stand on their own. -/
def settings : LexicalSettings where
  comment := some '#'
  separators := [':', '|']

/-- Whether a run of characters can be a name: ASCII letters, digits and underscores. -/
def isName (text : List Char) : Bool := text.all fun c => c.isAlphanum || c == '_'

/-- Whether a lexeme is a colon. -/
def isColon (x : Lexeme) : Bool := x.kind == .operator && x.text == [':']

/-- Whether the next lexeme that is not white space is a colon. -/
def colonFollows (xs : List Lexeme) : Bool :=
  (xs.dropWhile fun x => x.kind == .blank).head?.any isColon

/-- The words of a sequence of lexemes. The colon of a name that declares an item is the first word
of the lexemes after the name, so it is dropped from there. -/
def wordsOf : List Lexeme → List (Position × Word)
  | [] => []
  | x :: xs =>
    let rest := wordsOf xs
    match x.kind with
    | .blank => rest
    | .comment => rest
    | .quotation mark =>
      (x.position, .literal mark (String.ofList x.text.tail.dropLast)) :: rest
    | .bracket | .operator =>
      match Delimiter.ofChars? x.text with
      | some d => (x.position, .delimiter d) :: rest
      | none => (x.position, .invalid (String.ofList x.text)) :: rest
    | .number | .name =>
      let text := String.ofList x.text
      if !isName x.text then (x.position, .invalid text) :: rest
      else if colonFollows xs then (x.position, .itemName text) :: rest.tail
      else (x.position, .ofSpelling text) :: rest

/-- The words of a grammar text, and the position of its end. -/
def words [BracketSet] (text : String) : Except LexicalError (List (Position × Word) × Position) :=
  let scan := scan settings text
  match scan.error with
  | some e => .error e
  | none => .ok (wordsOf scan.lexemes, scan.stop)

/-- Drops the backslash before the characters that need none, and keeps every other escape as it is
written. -/
def unescape (plain : Char → Bool) : List Char → List Char
  | [] => []
  | ['\\'] => ['\\']
  | '\\' :: c :: cs =>
    if plain c then c :: unescape plain cs else '\\' :: c :: unescape plain cs
  | c :: cs => c :: unescape plain cs

/-- The text that a string literal stands for: the escaped mark and the escaped backslash lose their
backslash. -/
def literalText (mark : Char) (raw : String) : String :=
  String.ofList (unescape (fun c => c == mark || c == '\\') raw.toList)

/-- The pattern that a literal stands for: only the escaped mark loses its backslash, so that the
escapes of patterns are kept. -/
def patternText (mark : Char) (raw : String) : String :=
  String.ofList (unescape (fun c => c == mark) raw.toList)

end BranchLR.GrammarText
