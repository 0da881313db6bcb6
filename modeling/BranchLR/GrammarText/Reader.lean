import BranchLR.GrammarText.Clause

/-!
# Reading grammar texts

A grammar text is read clause by clause. The reader keeps the grammar of the items that are
complete and a draft of the item being defined: its finished alternatives, the alternative being
filled and the brackets that are open in it. An item joins the grammar when the next one begins or
the text ends, so a name that is already taken is reported where its second definition starts.
-/

namespace BranchLR.GrammarText

variable [RegexLibrary]

/-- A bracket that is still open, with the rules read inside it. -/
structure OpenBracket where
  position : Position
  kind : BracketKind
  rules : List Rule

/-- The item being defined. -/
structure Draft where
  position : Position
  /-- The item with its finished alternatives. -/
  item : Item
  /-- The alternative being filled. -/
  alternative : List Rule
  /-- The open brackets, innermost first. -/
  brackets : List OpenBracket

/-- What has been read of a grammar text. -/
structure Reader where
  grammar : Grammar
  draft : Option Draft
  /-- The start item chosen last, and where it was chosen. -/
  start : Option (Position × String)

namespace Draft

/-- The draft of an item whose definition begins. -/
def begin (p : Position) (name : String) (kind : ItemKind) : Draft := ⟨p, ⟨name, kind, []⟩, [], []⟩

/-- Ends the alternative being filled. An imported token has none. -/
def finishAlternative (d : Draft) (p : Position) : Except SyntaxError Draft :=
  if d.item.isImported then .ok d
  else if d.alternative.isEmpty then .error ⟨p, .emptyAlternative⟩
  else
    .ok { d with
      item := { d.item with alternatives := d.item.alternatives ++ [d.alternative] }
      alternative := [] }

/-- Adds a rule to the innermost open bracket, or to the alternative if none is open. A pattern may
only stand in a token, and a token takes one literal or pattern per alternative. -/
def addRule (d : Draft) (p : Position) (r : Rule) : Except SyntaxError Draft :=
  match d.brackets with
  | b :: outer =>
    match r with
    | .pattern _ => .error ⟨p, .patternOutsideToken⟩
    | r => .ok { d with brackets := { b with rules := b.rules ++ [r] } :: outer }
  | [] =>
    let extended : Draft := { d with alternative := d.alternative ++ [r] }
    if d.item.isToken then
      match r, d.alternative with
      | .literal _, [] => .ok extended
      | .pattern _, [] => .ok extended
      | _, _ => .error ⟨p, .tokenBody d.item.name⟩
    else
      match r with
      | .pattern _ => .error ⟨p, .patternOutsideToken⟩
      | _ => .ok extended

/-- Closes the innermost bracket, which has to be of the given kind and to hold a rule. -/
def closeBracket (d : Draft) (p : Position) (word : Word) (kind : BracketKind) :
    Except SyntaxError Draft :=
  match d.brackets with
  | [] => .error ⟨p, .mismatchedBracket word.render⟩
  | b :: outer =>
    if b.kind ≠ kind then .error ⟨p, .mismatchedBracket word.render⟩
    else if b.rules.isEmpty then .error ⟨p, .emptyBracket⟩
    else { d with brackets := outer }.addRule p (kind.rule b.rules)

/-- Adds a part of the body. -/
def addPiece (d : Draft) (p : Position) (word : Word) : Piece → Except SyntaxError Draft
  | .rule r => d.addRule p r
  | .bar => if d.brackets.isEmpty then d.finishAlternative p else .error ⟨p, .barInsideBracket⟩
  | .opening kind => .ok { d with brackets := ⟨p, kind, []⟩ :: d.brackets }
  | .closing kind => d.closeBracket p word kind

/-- Adds the item to a grammar, once its last alternative is ended at the given position. -/
def finish (d : Draft) (p : Position) (g : Grammar) : Except SyntaxError Grammar :=
  match d.brackets with
  | b :: _ => .error ⟨b.position, .unclosedBracket⟩
  | [] => do
    let d ← d.finishAlternative p
    match g.insert d.item with
    | .ok g => .ok g
    | .error e => .error ⟨d.position, .ofGrammarError e⟩

end Draft

namespace Reader

/-- Nothing has been read. -/
def empty : Reader := ⟨.empty, none, none⟩

/-- The grammar with the item being defined, if there is one, ended at the given position. -/
def complete (r : Reader) (p : Position) : Except SyntaxError Grammar :=
  match r.draft with
  | none => .ok r.grammar
  | some d => d.finish p r.grammar

/-- Reads one clause. -/
def step (r : Reader) (p : Position) : Clause → Except SyntaxError Reader
  | .item name kind => do
    let g ← r.complete p
    .ok { r with grammar := g, draft := some (.begin p name kind) }
  | .start name => .ok { r with start := some (p, name) }
  | .body word piece =>
    match r.draft with
    | none => .error ⟨p, .ruleOutsideItem word.render⟩
    | some d =>
      if d.item.isImported then .error ⟨p, .importedTokenBody d.item.name⟩
      else do
        let d ← d.addPiece p word (← piece)
        .ok { r with draft := some d }
  | .faulty e => .error e

/-- The grammar of a text that ends at the given position, once all its clauses are read. -/
def finish (r : Reader) (p : Position) : Except SyntaxError Grammar := do
  let g ← r.complete p
  match r.start with
  | none => .ok g
  | some (q, name) =>
    match g.setStart name with
    | .ok g => .ok g
    | .error e => .error ⟨q, .ofGrammarError e⟩

/-- Reads a sequence of clauses. -/
def readAll (r : Reader) : List (Position × Clause) → Except SyntaxError Reader
  | [] => .ok r
  | (p, c) :: rest => do
    let r ← r.step p c
    r.readAll rest

end Reader

/-- The grammar that a sequence of words with the given end stands for. -/
def readWords (ws : List (Position × Word)) (stop : Position) : Except SyntaxError Grammar := do
  let r ← Reader.empty.readAll (clauses ws)
  r.finish stop

end GrammarText

/-- The grammar that a text stands for. -/
def Grammar.read [RegexLibrary] [BracketSet] (text : String) :
    Except GrammarText.SyntaxError Grammar :=
  match GrammarText.words text with
  | .error e => .error (.ofLexicalError e)
  | .ok (ws, stop) => GrammarText.readWords ws stop

end BranchLR
