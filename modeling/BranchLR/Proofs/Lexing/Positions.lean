import BranchLR.Proofs.Lexing.Splitting
import Mathlib.Data.List.DropRight

/-!
# Positions by counting

A position is kept character by character while a text is read. Counted at once, it is given by the
line feeds before it and by the characters since the last of them. When a text is put behind other
characters, all its positions move down by the line feeds among these, and those on its first line
also move right. Nothing else about its lexemes changes.
-/

namespace BranchLR

/-- The characters after the last line feed. -/
def lastLine (cs : List Char) : List Char := cs.rtakeWhile (· != '\n')

@[simp]
theorem lastLine_concat_lineFeed (cs : List Char) : lastLine (cs ++ ['\n']) = [] :=
  List.rtakeWhile_concat_neg _ _ _ (by decide)

theorem lastLine_concat {c : Char} (hc : c ≠ '\n') (cs : List Char) :
    lastLine (cs ++ [c]) = lastLine cs ++ [c] :=
  List.rtakeWhile_concat_pos _ _ _ (by simpa using hc)

namespace Position

/-- The position behind the given characters of a text, by counting: a line for each line feed, and
a column for each character after the last of them. -/
def counted (before : List Char) : Position :=
  ⟨1 + before.count '\n', 1 + (lastLine before).length⟩

theorem step_counted (before : List Char) (c : Char) :
    (counted before).step c = counted (before ++ [c]) := by
  unfold step counted
  by_cases hc : c = '\n'
  · simp [hc, Nat.add_assoc]
  · simp [hc, lastLine_concat hc, Nat.add_assoc]

/-- Reading character by character counts them. -/
theorem after_counted (before cs : List Char) :
    (counted before).after cs = counted (before ++ cs) := by
  induction cs generalizing before with
  | nil => simp
  | cons c cs ih => rw [after_cons, step_counted, ih, List.append_assoc, List.singleton_append]

theorem start_after (cs : List Char) : start.after cs = counted cs := after_counted [] cs

/-- The position of what stands at the position of a text, once the text is put behind the given
characters. -/
def movedBehind (before : List Char) (p : Position) : Position :=
  ⟨p.line + before.count '\n',
    if p.line = 1 then p.column + (lastLine before).length else p.column⟩

theorem start_movedBehind (before : List Char) : start.movedBehind before = counted before := by
  simp [movedBehind, counted, start, Nat.add_comm]

theorem line_le_step (p : Position) (c : Char) : p.line ≤ (p.step c).line := by
  unfold step
  split
  · exact Nat.le_succ p.line
  · exact Nat.le_refl p.line

theorem line_le_after (p : Position) (cs : List Char) : p.line ≤ (p.after cs).line := by
  induction cs generalizing p with
  | nil => exact Nat.le_refl p.line
  | cons c cs ih => exact Nat.le_trans (p.line_le_step c) (ih (p.step c))

theorem step_movedBehind (before : List Char) {p : Position} (hp : 1 ≤ p.line) (c : Char) :
    (p.movedBehind before).step c = (p.step c).movedBehind before := by
  unfold step movedBehind
  by_cases hc : c = '\n'
  · -- Behind a line feed no position is on the first line.
    have hline : p.line + 1 ≠ 1 := by omega
    simp only [hc, if_true, if_neg hline, mk.injEq, and_true]
    omega
  · by_cases hline : p.line = 1
    · simp only [hc, hline, if_true, if_false, mk.injEq, true_and]
      omega
    · simp [hc, hline]

theorem after_movedBehind (before : List Char) {p : Position} (hp : 1 ≤ p.line) (cs : List Char) :
    (p.movedBehind before).after cs = (p.after cs).movedBehind before := by
  induction cs generalizing p with
  | nil => rfl
  | cons c cs ih =>
    rw [after_cons, after_cons, step_movedBehind before hp]
    exact ih (Nat.le_trans hp (p.line_le_step c))

end Position

theorem byteLength_append (cs ds : List Char) :
    byteLength (cs ++ ds) = byteLength cs + byteLength ds := by
  induction cs with
  | nil => simp [byteLength]
  | cons c cs ih => rw [List.cons_append, byteLength, byteLength, ih, Nat.add_assoc]

/-- The lexeme once its text is put behind the given characters. -/
def Lexeme.movedBehind (before : List Char) (x : Lexeme) : Lexeme :=
  { x with position := x.position.movedBehind before, start := x.start + byteLength before }

/-- The error once its text is put behind the given characters. -/
def LexicalError.movedBehind (before : List Char) : LexicalError → LexicalError
  | .unterminatedQuote p => .unterminatedQuote (p.movedBehind before)

variable [BracketSet]

/-- A text is divided in the same way behind other characters, and all positions are moved. -/
theorem scanFrom_movedBehind (s : LexicalSettings) (before : List Char) {p : Position}
    (hp : 1 ≤ p.line) (offset : Nat) (cs : List Char) :
    scanFrom s (p.movedBehind before) (offset + byteLength before) cs =
      ⟨(scanFrom s p offset cs).lexemes.map (Lexeme.movedBehind before),
        (scanFrom s p offset cs).error.map (LexicalError.movedBehind before),
        (scanFrom s p offset cs).stop.movedBehind before⟩ := by
  induction cs using LexicalSettings.text_induction (s := s) generalizing p offset with
  | nil => simp [scanFrom]
  | unended c tail hsplit =>
    rw [scanFrom_cons_of_unterminated hsplit, scanFrom_cons_of_unterminated hsplit,
      Position.after_movedBehind before hp]
    rfl
  | lexeme c tail kind body rest hsplit ih =>
    have hoffset : offset + byteLength before + byteLength (c :: body) =
        offset + byteLength (c :: body) + byteLength before := by omega
    have hline : 1 ≤ (p.after (c :: body)).line := Nat.le_trans hp (p.line_le_after _)
    rw [scanFrom_cons hsplit, scanFrom_cons hsplit, Position.after_movedBehind before hp, hoffset,
      ih hline]
    rfl

end BranchLR
