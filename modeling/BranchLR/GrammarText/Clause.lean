import BranchLR.GrammarText.SyntaxError
import BranchLR.GrammarText.Word

/-!
# The clauses of grammar texts

Words group into clauses: a keyword with its argument, a brace with what it encloses, or a single
word. A clause either declares an item, chooses the start item, or is part of the body of an item.
Cutting a text into clauses needs no knowledge of what has been declared, so a group of words that
makes no clause becomes a clause that carries its error; what follows it is never read.
-/

namespace BranchLR.GrammarText

variable [RegexLibrary]

/-- The two kinds of brackets around rules. -/
inductive BracketKind where
  | optional
  | repeated
  deriving DecidableEq

/-- The rule that a bracket makes of its contents. -/
def BracketKind.rule : BracketKind → List Rule → Rule
  | optional => .optional
  | repeated => .repeated

/-- A part of the body of an item. -/
inductive Piece where
  | rule (r : Rule)
  | bar
  | opening (kind : BracketKind)
  | closing (kind : BracketKind)

/-- One clause of a grammar text. -/
inductive Clause where
  /-- The declaration of an item, whose body follows. -/
  | item (name : String) (kind : ItemKind)
  /-- The choice of the start item. -/
  | start (name : String)
  /-- A part of the body of the item declared last, which the given word opens. Whether there may be
  a body at all is decided before an error in the part counts. -/
  | body (word : Word) (piece : Except SyntaxError Piece)
  /-- Words that make no clause. -/
  | faulty (e : SyntaxError)

/-- What a single word between braces stands for. -/
def braced : Word → Except SyntaxFault Rule
  | .literal mark raw =>
    let source := patternText mark raw
    match Pattern.ofSource source with
    | .ok p => .ok (.pattern p)
    | .error reason => .error (.invalidPattern source reason)
  | .name "EMPTY" => .ok .empty
  | .name "EOF" => .ok .endOfInput
  | w => .error (.malformedBrace w.render)

/-- The clause that a word makes on its own. Keywords and opening braces, which need more words,
are left to `clauses`. -/
def single (p : Position) (w : Word) : Clause :=
  match w with
  | .itemName s => .item s .rule
  | .name s => .body w (.ok (.rule (.item s)))
  | .literal mark raw => .body w (.ok (.rule (.literal (literalText mark raw))))
  | .delimiter .bar => .body w (.ok .bar)
  | .delimiter .parenOpen => .body w (.ok (.opening .optional))
  | .delimiter .squareOpen => .body w (.ok (.opening .repeated))
  | .delimiter .parenClose => .body w (.ok (.closing .optional))
  | .delimiter .squareClose => .body w (.ok (.closing .repeated))
  | w => .faulty ⟨p, .invalidWord w.render⟩

/-- The error of a keyword without the name it needs; `rest` are the words after the keyword. -/
def missingName (p : Position) (k : Keyword) (rest : List (Position × Word)) : SyntaxError :=
  match rest with
  | [] => ⟨p, .expectedItemName k.spelling ""⟩
  | (q, w) :: _ => ⟨q, .expectedItemName k.spelling w.render⟩

/-- The error of a brace that is not closed behind its contents; `rest` are the words after the
opening brace. -/
def malformedBrace (p : Position) (rest : List (Position × Word)) : SyntaxError :=
  match rest with
  | [] => ⟨p, .malformedBrace ""⟩
  | (q, w) :: rest =>
    match braced w, rest with
    | .error fault, _ => ⟨q, fault⟩
    | .ok _, [] => ⟨q, .malformedBrace w.render⟩
    | .ok _, (r, v) :: _ => ⟨r, .malformedBrace v.render⟩

/-- Cuts a sequence of words into clauses, each with the position where it is reported. The choice
of the start item is reported at the name, every other clause at its first word. -/
def clauses : List (Position × Word) → List (Position × Clause)
  | [] => []
  | (p, .keyword .token) :: (_, .itemName s) :: rest => (p, .item s .token) :: clauses rest
  | (p, .keyword .imported) :: (_, .name s) :: rest => (p, .item s .imported) :: clauses rest
  | (_, .keyword .start) :: (p, .name s) :: rest => (p, .start s) :: clauses rest
  | (p, .keyword k) :: rest => [(p, .faulty (missingName p k rest))]
  | (p, .delimiter .braceOpen) :: (q, w) :: (_, .delimiter .braceClose) :: rest =>
    match braced w with
    | .ok r => (p, .body (.delimiter .braceOpen) (.ok (.rule r))) :: clauses rest
    | .error fault => [(p, .body (.delimiter .braceOpen) (.error ⟨q, fault⟩))]
  | (p, .delimiter .braceOpen) :: rest =>
    [(p, .body (.delimiter .braceOpen) (.error (malformedBrace p rest)))]
  | (p, w) :: rest => (p, single p w) :: clauses rest

end BranchLR.GrammarText
