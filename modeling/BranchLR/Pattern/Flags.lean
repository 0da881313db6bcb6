import BranchLR.Pattern.Expr

/-!
# Flags of patterns

Flags change what the constructs of a pattern stand for. The verbose flag also changes how a pattern
is written: white space and comments between its constructs are then skipped.
-/

namespace BranchLR.Pattern

/-- The settings that a pattern can change for the rest of a group. -/
structure Flags where
  /-- Characters also match what differs from them only in case. -/
  ignoreCase : Bool := false
  /-- `^` and `$` also match at the ends of lines. -/
  multiLine : Bool := false
  /-- `.` also matches the end of a line. -/
  dotAll : Bool := false
  /-- White space and comments between constructs are skipped. -/
  verbose : Bool := false
  /-- A carriage return ends a line as well. -/
  anyLineEnd : Bool := false
  /-- The characters that classes and word boundaries speak of. -/
  repertoire : Repertoire := .unicode

namespace Flags

/-- Sets one flag by its letter. The letter for lazy matching changes nothing here: which match is
found is never asked. -/
def set (f : Flags) (letter : Char) (value : Bool) : Option Flags :=
  match letter with
  | 'i' => some { f with ignoreCase := value }
  | 'm' => some { f with multiLine := value }
  | 's' => some { f with dotAll := value }
  | 'x' => some { f with verbose := value }
  | 'R' => some { f with anyLineEnd := value }
  | 'U' => some f
  | 'u' => some { f with repertoire := if value then .unicode else .ascii }
  | _ => none

/-- Whether only ASCII characters are spoken of. -/
def isAscii (f : Flags) : Bool := f.repertoire == .ascii

/-- A set under the flags. -/
def fold (f : Flags) (s : CharSet) : CharSet :=
  if !f.ignoreCase then s else if f.isAscii then s.asciiAnyCase else s.anyCase

/-- The set of one character under the flags. -/
def foldChar (f : Flags) (c : Char) : CharSet :=
  if !f.ignoreCase then .single c
  else if f.isAscii then (CharSet.single c).asciiAnyCase
  else .singleAnyCase c

/-- The characters outside a set. There is no such set of ASCII characters. -/
def negate (f : Flags) (s : CharSet) : Option CharSet :=
  if f.isAscii then none else some s.complement

/-- The set that `.` stands for. -/
def dot (f : Flags) : Option CharSet :=
  if f.dotAll then f.negate .none
  else if f.anyLineEnd then f.negate (.union (.single '\n') (.single '\r'))
  else f.negate (.single '\n')

/-- The condition that `^` stands for. -/
def caret (f : Flags) : Assertion :=
  if !f.multiLine then .textStart else if f.anyLineEnd then .anyLineStart else .lineStart

/-- The condition that `$` stands for. -/
def dollar (f : Flags) : Assertion :=
  if !f.multiLine then .textEnd else if f.anyLineEnd then .anyLineEnd else .lineEnd

end Flags

mutual

/-- Drops white space and comments. -/
def dropLayout : List Char → List Char
  | [] => []
  | c :: cs => if isBlank c then dropLayout cs else if c = '#' then dropComment cs else c :: cs

/-- Drops the rest of a comment with its line feed, and the layout after it. -/
def dropComment : List Char → List Char
  | [] => []
  | c :: cs => if c = '\n' then dropLayout cs else dropComment cs

end

/-- Drops what the verbose flag makes meaningless. -/
def Flags.skip (f : Flags) (cs : List Char) : List Char := if f.verbose then dropLayout cs else cs

mutual

theorem length_dropLayout_le : ∀ cs : List Char, (dropLayout cs).length ≤ cs.length
  | [] => by simp [dropLayout]
  | c :: cs => by
    have := length_dropLayout_le cs
    have := length_dropComment_le cs
    simp only [dropLayout]
    split
    · simp; omega
    · split <;> simp
      omega

theorem length_dropComment_le : ∀ cs : List Char, (dropComment cs).length ≤ cs.length
  | [] => by simp [dropComment]
  | c :: cs => by
    have := length_dropLayout_le cs
    have := length_dropComment_le cs
    simp only [dropComment]
    split <;> simp <;> omega

end

/-- The character that decides what a hyphen in a class means: the next one after it that is not
white space under the verbose flag, where the mark of one comment counts as white space too. -/
def Flags.afterHyphen (f : Flags) (cs : List Char) : Option Char :=
  if f.verbose then
    let next := match cs.dropWhile isBlank with
      | '#' :: rest => rest.dropWhile isBlank
      | rest => rest
    next.head?.or cs.head?
  else cs.head?

theorem Flags.length_skip_le (f : Flags) (cs : List Char) : (f.skip cs).length ≤ cs.length := by
  unfold Flags.skip
  split
  · exact length_dropLayout_le cs
  · exact Nat.le_refl _

end BranchLR.Pattern
