/-!
# Patterns

A pattern describes texts by a regular expression that has to match the whole text. Expressions are
compiled and matched by a library, of which nothing is assumed: which sources compile, what the
error of the others reads, and which texts match are its own affair. A pattern is kept with the
expression its source compiles to, so a pattern is always one that can be matched, and two patterns
are equal exactly when their sources are.
-/

namespace BranchLR

/-- A library of regular expressions. -/
class RegexLibrary where
  /-- Compiled expressions. -/
  Regex : Type
  /-- The expression that a source compiles to, or the reason why it does not compile. -/
  compile : String → Except String Regex
  /-- Whether an expression matches some part of a text. -/
  isMatch : Regex → String → Bool

/-- The source of a pattern between the anchors that make it match whole texts. -/
def Pattern.anchored (source : String) : String := "^(?:" ++ source ++ ")$"

variable [RegexLibrary]

/-- A pattern that can be matched. -/
structure Pattern where
  source : String
  regex : RegexLibrary.Regex
  compile_eq : RegexLibrary.compile (Pattern.anchored source) = .ok regex

namespace Pattern

/-- The pattern with the given source, or the reason why the source does not compile. -/
def ofSource (source : String) : Except String Pattern :=
  match h : RegexLibrary.compile (anchored source) with
  | .error reason => .error reason
  | .ok regex => .ok ⟨source, regex, h⟩

/-- Whether a pattern matches a text. -/
def matchesText (p : Pattern) (text : String) : Bool := RegexLibrary.isMatch p.regex text

theorem ext_source {p q : Pattern} (h : p.source = q.source) : p = q := by
  obtain ⟨s, e, he⟩ := p
  obtain ⟨t, f, hf⟩ := q
  cases h
  cases he.symm.trans hf
  rfl

instance : DecidableEq Pattern := fun p q =>
  if h : p.source = q.source then isTrue (ext_source h)
  else isFalse fun e => h (congrArg source e)

/-- Compiling keeps the source. -/
theorem source_of_ofSource {source : String} {p : Pattern} (h : ofSource source = .ok p) :
    p.source = source := by
  unfold ofSource at h
  split at h
  next => cases h
  next =>
    cases h
    rfl

end Pattern

end BranchLR
