import BranchLR.Pattern.Property

/-!
# Conditions on a place

Some constructs of a pattern take no character but ask something of the place they stand at. What
they ask depends on the two characters around the place alone.
-/

namespace BranchLR.Pattern

/-- Which characters count as digits, as white space and as parts of words. -/
inductive Repertoire where
  | unicode
  | ascii
  deriving DecidableEq, Repr

namespace Repertoire

/-- The Unicode characters that belong to words: what is alphabetic, marks, digits, connectors and
the controls that join letters. -/
def unicodeWord : CharSet :=
  .unionAll [Property.alphabetic, Property.marks, ⟨Category.decimalNumbers⟩,
    ⟨Category.connectorPunctuation⟩, ⟨Feature.joinControls⟩]

/-- The digits. -/
def digit : Repertoire → CharSet
  | unicode => ⟨Category.decimalNumbers⟩
  | ascii => ⟨[(0x30, 0x39)]⟩

/-- White space. -/
def blank : Repertoire → CharSet
  | unicode => ⟨blankRanges⟩
  | ascii => ⟨[(0x09, 0x0D), (0x20, 0x20)]⟩

/-- The characters that belong to words. -/
def word : Repertoire → CharSet
  | unicode => unicodeWord
  | ascii => ⟨[(0x30, 0x39), (0x41, 0x5A), (0x5F, 0x5F), (0x61, 0x7A)]⟩

end Repertoire

/-- The conditions on a place that take no character. -/
inductive Assertion where
  | textStart
  | textEnd
  | lineStart
  | lineEnd
  /-- The start of a line where a carriage return, a line feed or both in a row end lines. -/
  | anyLineStart
  /-- The end of a line where a carriage return, a line feed or both in a row end lines. -/
  | anyLineEnd
  | wordBoundary (r : Repertoire)
  | noWordBoundary (r : Repertoire)
  | wordStart (r : Repertoire)
  | wordEnd (r : Repertoire)
  | noWordBefore (r : Repertoire)
  | noWordAfter (r : Repertoire)
  deriving DecidableEq, Repr

/-- Whether a condition holds between two characters, of which either may be missing. -/
def Assertion.holds (a : Assertion) (before after : Option Char) : Bool :=
  let isWord (r : Repertoire) (c : Option Char) : Bool := c.any r.word.contains
  match a with
  | textStart => before.isNone
  | textEnd => after.isNone
  | lineStart => before.all (· == '\n')
  | lineEnd => after.all (· == '\n')
  | anyLineStart => before.all fun c => c == '\n' || c == '\r' && after != some '\n'
  | anyLineEnd => after.all fun c => c == '\r' || c == '\n' && before != some '\r'
  | wordBoundary r => isWord r before != isWord r after
  | noWordBoundary r => isWord r before == isWord r after
  | wordStart r => !isWord r before && isWord r after
  | wordEnd r => isWord r before && !isWord r after
  | noWordBefore r => !isWord r before
  | noWordAfter r => !isWord r after

end BranchLR.Pattern
