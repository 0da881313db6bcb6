import BranchLR.Pattern.Flags

/-!
# Escapes in patterns

What a backslash makes of the characters after it: a literal character, a set that has a letter or
is named by a property, or a condition on the place.
-/

namespace BranchLR.Pattern

/-- The value of a hexadecimal digit. -/
def hexValue? (c : Char) : Option Nat :=
  if '0' ≤ c ∧ c ≤ '9' then some (c.toNat - 0x30)
  else if 'A' ≤ c ∧ c ≤ 'F' then some (c.toNat - 0x37)
  else if 'a' ≤ c ∧ c ≤ 'f' then some (c.toNat - 0x57)
  else none

/-- The character with the given code point, if there is one. -/
def charOf? (n : Nat) : Option Char := if n.isValidChar then some (Char.ofNat n) else none

/-- A code point written with a fixed number of digits. -/
def readFixedHex (f : Flags) : Nat → Nat → List Char → Option (Char × List Char)
  | 0, value, cs => (charOf? value).map (·, cs)
  | _ + 1, _, [] => none
  | n + 1, value, c :: cs =>
    match hexValue? c with
    | none => none
    | some d => readFixedHex f n (16 * value + d) (f.skip cs)

/-- A code point written up to a closing brace; `value` is missing as long as no digit was read. -/
def readBracedHex (f : Flags) (value : Option Nat) (cs : List Char) : Option (Char × List Char) :=
  match cs with
  | [] => none
  | c :: rest =>
    have := f.length_skip_le rest
    if c = '\x7d' then value.bind fun n => (charOf? n).map (·, f.skip rest)
    else
      match hexValue? c with
      | none => none
      | some d => readBracedHex f (some (16 * value.getD 0 + d)) (f.skip rest)
termination_by cs.length
decreasing_by
  simp only [List.length_cons]
  omega

/-- The code point after `\x`, `\u` or `\U`, which take so many digits or any number in braces. Two
digits stand for a byte where only ASCII is spoken of, and bytes beyond ASCII are no characters. -/
def readHex (f : Flags) (digits : Nat) (cs : List Char) : Option (Char × List Char) :=
  match f.skip cs with
  | '\x7b' :: rest => readBracedHex f none (f.skip rest)
  | rest =>
    (readFixedHex f digits 0 rest).filter fun (c, _) =>
      !f.isAscii || digits != 2 || decide (c.toNat < 0x80)

/-- What one construct without operators stands for. -/
inductive Atom where
  | char (c : Char)
  | set (s : CharSet)
  | test (a : Assertion)

/-- The names that may stand in braces after `\b`, read as far as their letters go. -/
def readBoundaryName (f : Flags) (name : List Char) (cs : List Char) : List Char × List Char :=
  match cs with
  | [] => (name, [])
  | c :: rest =>
    have := f.length_skip_le rest
    if c.isAlpha || c == '-' then readBoundaryName f (name ++ [c]) (f.skip rest) else (name, cs)
termination_by cs.length
decreasing_by
  simp only [List.length_cons]
  omega

/-- The condition after `\b`. A brace that does not open a name is left alone, since it may start a
repetition. -/
def readBoundary (f : Flags) (cs : List Char) : Option (Atom × List Char) :=
  match cs with
  | '\x7b' :: rest =>
    match f.skip rest with
    | [] => none
    | inside =>
      let (name, rest) := readBoundaryName f [] inside
      if name.isEmpty then some (.test (.wordBoundary f.repertoire), cs)
      else match rest with
        | '\x7d' :: rest =>
          match String.ofList name with
          | "start" => some (.test (.wordStart f.repertoire), rest)
          | "end" => some (.test (.wordEnd f.repertoire), rest)
          | "start-half" => some (.test (.noWordBefore f.repertoire), rest)
          | "end-half" => some (.test (.noWordAfter f.repertoire), rest)
          | _ => none
        | _ => none
  | _ => some (.test (.wordBoundary f.repertoire), cs)

/-- The characters up to a closing brace, and what follows it. -/
def readBraced (f : Flags) (inside : List Char) (cs : List Char) : Option (List Char × List Char) :=
  match cs with
  | [] => none
  | c :: rest =>
    have := f.length_skip_le rest
    if c = '\x7d' then some (inside.reverse, rest) else readBraced f (c :: inside) (f.skip rest)
termination_by cs.length
decreasing_by
  simp only [List.length_cons]
  omega

/-- Splits a text before and after the first place where another stands in it. -/
def splitAtFirst (mark : List Char) : List Char → Option (List Char × List Char)
  | [] => none
  | c :: cs =>
    if mark.isPrefixOf (c :: cs) then some ([], (c :: cs).drop mark.length)
    else (splitAtFirst mark cs).map fun (a, b) => (c :: a, b)

/-- The set that the words in the braces of a property stand for, and whether they negate it. -/
def propertySet? (words : List Char) : Option (CharSet × Bool) :=
  match splitAtFirst ['!', '='] words with
  | some (name, value) => (Property.valued? name value).map (·, true)
  | none =>
    match splitAtFirst [':'] words |>.or (splitAtFirst ['='] words) with
    | some (name, value) => (Property.valued? name value).map (·, false)
    | none => (Property.named? words).map (·, false)

/-- The set after `\p` or `\P`: a property in braces, or one with a name of one letter. -/
def readProperty (f : Flags) (negated : Bool) (cs : List Char) : Option (Atom × List Char) := do
  if f.isAscii then none
  let ((s, opposite), rest) ← match f.skip cs with
    | [] => none
    | '\x7b' :: rest => do
      let (words, rest) ← readBraced f [] (f.skip rest)
      some (← propertySet? words, rest)
    | c :: rest =>
      if c = '\\' then none else (Property.named? [c]).map fun s => ((s, false), rest)
  let s := f.fold s
  if negated != opposite then (f.negate s).map (.set ·, rest) else some (.set s, rest)

/-- Whether a backslash before a character makes it literal: it is ASCII, neither a letter nor a
digit, and not an angle bracket. -/
def isEscapable (c : Char) : Bool :=
  inRanges [(0x00, 0x2F), (0x3A, 0x3B), (0x3D, 0x3D), (0x3F, 0x40), (0x5B, 0x60), (0x7B, 0x7F)]
    c.toNat

/-- What follows a backslash. -/
def readEscape (f : Flags) : List Char → Option (Atom × List Char)
  | [] => none
  | c :: cs =>
    match c with
    | 'x' => (readHex f 2 cs).map fun (c, rest) => (.char c, rest)
    | 'u' => (readHex f 4 cs).map fun (c, rest) => (.char c, rest)
    | 'U' => (readHex f 8 cs).map fun (c, rest) => (.char c, rest)
    | 'd' => some (.set f.repertoire.digit, cs)
    | 'D' => (f.negate f.repertoire.digit).map (.set ·, cs)
    | 's' => some (.set f.repertoire.blank, cs)
    | 'S' => (f.negate f.repertoire.blank).map (.set ·, cs)
    | 'w' => some (.set f.repertoire.word, cs)
    | 'W' => (f.negate f.repertoire.word).map (.set ·, cs)
    | 'p' => readProperty f false cs
    | 'P' => readProperty f true cs
    | 'a' => some (.char '\x07', cs)
    | 'f' => some (.char '\x0c', cs)
    | 't' => some (.char '\t', cs)
    | 'n' => some (.char '\n', cs)
    | 'r' => some (.char '\r', cs)
    | 'v' => some (.char '\x0b', cs)
    | 'A' => some (.test .textStart, cs)
    | 'z' => some (.test .textEnd, cs)
    | 'b' => readBoundary f cs
    | 'B' => some (.test (.noWordBoundary f.repertoire), cs)
    | '<' => some (.test (.wordStart f.repertoire), cs)
    | '>' => some (.test (.wordEnd f.repertoire), cs)
    | c => if isEscapable c then some (.char c, cs) else none

end BranchLR.Pattern
