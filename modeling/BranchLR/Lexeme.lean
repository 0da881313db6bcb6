import BranchLR.Position
import BranchLR.Text.Alphabetic
import BranchLR.Text.Blank
import BranchLR.Text.Bracket
import BranchLR.Text.Numeric

/-!
# Lexemes

A text falls into lexemes by the class of their first characters: white space, words that start
with a letter or a number, operators, single brackets and quotations. Line comments and separators,
which are operators of one character, are settings of the reading. The lexemes of a text stand side
by side and leave nothing out; only a quotation that never ends stops the reading early.
-/

namespace BranchLR

/-- The classes of lexemes. -/
inductive LexemeKind where
  | bracket
  | operator
  | number
  | name
  /-- A quotation between two marks of the given kind. -/
  | quotation (mark : Char)
  | blank
  | comment
  deriving DecidableEq

/-- The characters a particular reading treats specially. -/
structure LexicalSettings where
  /-- The character that opens a comment, which runs to the end of its line. -/
  comment : Option Char := none
  /-- The characters that are operators on their own, whatever follows them. -/
  separators : List Char := []

/-- A piece of a text: its class, its characters, and where it starts, as a position and as an
offset in bytes. -/
structure Lexeme where
  kind : LexemeKind
  text : List Char
  position : Position
  start : Nat
  deriving DecidableEq

/-- The number of bytes that a run of characters takes in UTF-8. -/
def byteLength : List Char → Nat
  | [] => 0
  | c :: cs => c.utf8Size + byteLength cs

/-- The byte offset just past a lexeme. -/
def Lexeme.stop (x : Lexeme) : Nat := x.start + byteLength x.text

/-- Why a text cannot be read to its end. -/
inductive LexicalError where
  /-- The quotation that starts at the position is not closed. -/
  | unterminatedQuote (position : Position)
  deriving DecidableEq

namespace LexicalError

/-- Where the error is reported. -/
def position : LexicalError → Position
  | unterminatedQuote p => p

/-- The error as it is reported. -/
def message : LexicalError → String
  | unterminatedQuote p => "(" ++ p.render ++ ") unterminated quotation"

end LexicalError

/-- The outcome of reading a text: its lexemes up to the first error, that error, and the position
just past the last character read. -/
structure Scan where
  lexemes : List Lexeme
  error : Option LexicalError
  stop : Position
  deriving DecidableEq

/-- Whether a character opens a quotation. -/
def isQuote (c : Char) : Bool := c == '\'' || c == '"'

/-- Whether a character continues a word. -/
def isWordPart (c : Char) : Bool := isAlphabetic c || isNumeric c || c == '_'

/-- Splits the characters after an opening mark behind the mark that closes the quotation. A
backslash makes the character after it content, whatever it is. -/
def splitQuotation (mark : Char) : List Char → Option (List Char × List Char)
  | [] => none
  | ['\\'] => none
  | '\\' :: c :: cs =>
    (splitQuotation mark cs).map fun (body, rest) => ('\\' :: c :: body, rest)
  | c :: cs =>
    if c = mark then some ([c], cs)
    else (splitQuotation mark cs).map fun (body, rest) => (c :: body, rest)

theorem splitQuotation_append {mark : Char} {cs body rest : List Char}
    (h : splitQuotation mark cs = some (body, rest)) : body ++ rest = cs := by
  fun_induction splitQuotation mark cs generalizing body rest with
  | case1 => simp at h
  | case2 => simp at h
  | case3 c cs ih =>
    obtain ⟨⟨b, r⟩, hb, he⟩ := Option.map_eq_some_iff.1 h
    cases he
    simp [ih hb]
  | case4 =>
    cases h
    rfl
  | case5 c cs _ _ _ ih =>
    obtain ⟨⟨b, r⟩, hb, he⟩ := Option.map_eq_some_iff.1 h
    cases he
    simp [ih hb]

/-- The shapes of lexemes whose extent depends on one character at a time. -/
inductive LexemeShape where
  | comment
  | separator
  | number
  | name
  | blank
  | bracket
  | operator
  deriving DecidableEq

/-- The class of lexemes of a shape. -/
def LexemeShape.kind : LexemeShape → LexemeKind
  | comment => .comment
  | separator => .operator
  | number => .number
  | name => .name
  | blank => .blank
  | bracket => .bracket
  | operator => .operator

variable [BracketSet]

namespace LexicalSettings

/-- The shape of the lexeme that starts with a character other than a quotation mark. The special
characters of the settings come first, and a number sign that is also a letter starts a number. -/
def shape (s : LexicalSettings) (c : Char) : LexemeShape :=
  if s.comment = some c then .comment
  else if c ∈ s.separators then .separator
  else if isNumeric c then .number
  else if isAlphabetic c || c == '_' then .name
  else if isBlank c then .blank
  else if BracketSet.isBracket c then .bracket
  else .operator

/-- Whether a lexeme of the given shape goes on with a character. -/
def continues (s : LexicalSettings) : LexemeShape → Char → Bool
  | .comment, c => c != '\n' && c != '\r'
  | .separator, _ => false
  | .number, c => isWordPart c
  | .name, c => isWordPart c
  | .blank, c => isBlank c
  | .bracket, _ => false
  | .operator, c =>
    !isWordPart c && !isBlank c && !isQuote c && !BracketSet.isBracket c &&
      s.comment != some c && !s.separators.contains c

end LexicalSettings

/-- Splits the characters after the first one of a text behind the lexeme that the first one
starts, with the class of that lexeme. An unterminated quotation has no end. -/
def LexicalSettings.split (s : LexicalSettings) (c : Char) (cs : List Char) :
    Option (LexemeKind × List Char × List Char) :=
  if isQuote c then
    (splitQuotation c cs).map fun (body, rest) => (.quotation c, body, rest)
  else
    let shape := s.shape c
    some (shape.kind, cs.takeWhile (s.continues shape), cs.dropWhile (s.continues shape))

/-- Splitting loses no character. -/
theorem LexicalSettings.split_append {s : LexicalSettings} {c : Char} {cs body rest : List Char}
    {kind : LexemeKind} (h : s.split c cs = some (kind, body, rest)) : body ++ rest = cs := by
  unfold LexicalSettings.split at h
  split at h
  · obtain ⟨⟨b, r⟩, hb, he⟩ := Option.map_eq_some_iff.1 h
    cases he
    exact splitQuotation_append hb
  · cases h
    exact List.takeWhile_append_dropWhile

/-- Reads the lexemes of a text that starts at the given position and byte offset. -/
def scanFrom (s : LexicalSettings) (position : Position) (offset : Nat) (cs : List Char) : Scan :=
  match cs with
  | [] => ⟨[], none, position⟩
  | c :: tail =>
    match h : s.split c tail with
    | none => ⟨[], some (.unterminatedQuote position), position.after (c :: tail)⟩
    | some (kind, body, rest) =>
      have shorter : rest.length < (c :: tail).length := by
        rw [← LexicalSettings.split_append h]
        simp only [List.length_append, List.length_cons]
        omega
      let text := c :: body
      let scan := scanFrom s (position.after text) (offset + byteLength text) rest
      ⟨⟨kind, text, position, offset⟩ :: scan.lexemes, scan.error, scan.stop⟩
termination_by cs.length
decreasing_by exact shorter

/-- Reads the lexemes of a text. -/
def scan (s : LexicalSettings) (text : String) : Scan :=
  scanFrom s .start 0 text.toList

end BranchLR
