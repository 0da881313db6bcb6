/-!
# Positions in a text

Lines and columns count from one, and columns count characters. A position is a function of the
text before it: a line feed opens a new line, and any other character moves one column on.
-/

namespace BranchLR

/-- A place in a text. -/
structure Position where
  line : Nat
  column : Nat
  deriving DecidableEq, Inhabited

namespace Position

/-- The position of the first character of a text. -/
def start : Position := ⟨1, 1⟩

/-- The position after one more character. -/
def step (p : Position) (c : Char) : Position :=
  if c = '\n' then ⟨p.line + 1, 1⟩ else ⟨p.line, p.column + 1⟩

/-- The position after a run of characters. -/
def after (p : Position) (cs : List Char) : Position := cs.foldl step p

/-- A position as error messages name it. -/
def render (p : Position) : String :=
  "line:" ++ toString p.line ++ " column:" ++ toString p.column

@[simp]
theorem after_nil (p : Position) : p.after [] = p := rfl

@[simp]
theorem after_cons (p : Position) (c : Char) (cs : List Char) :
    p.after (c :: cs) = (p.step c).after cs := rfl

theorem after_append (p : Position) (as bs : List Char) :
    p.after (as ++ bs) = (p.after as).after bs := by
  simp [after, List.foldl_append]

end Position

end BranchLR
