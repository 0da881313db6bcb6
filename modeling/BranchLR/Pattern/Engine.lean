import BranchLR.Pattern
import BranchLR.Pattern.Marking
import BranchLR.Pattern.Reader
import BranchLR.Pattern.Weight

/-!
# An engine for patterns

A library of regular expressions to run the development with: sources are read as expressions, those
that weigh too much are refused, and texts are matched by marking the expression. The reasons of
errors name what was refused but not the place in it. Classes of characters by the version that
introduced them and by where text may be broken are not known to this engine.
-/

namespace BranchLR

/-- The expression that a source stands for, unless it weighs too much. -/
def Pattern.Expr.compile (source : String) : Except String Pattern.Expr :=
  match Pattern.Expr.read? source.toList with
  | none => .error ("regex parse error: " ++ source)
  | some expr =>
    if expr.isLight then .ok expr
    else
      .error ("Compiled regex exceeds size limit of " ++ toString Pattern.Expr.weightLimit ++
        " bytes.")

instance : RegexLibrary where
  Regex := Pattern.Expr
  compile := Pattern.Expr.compile
  isMatch expr text := expr.occursIn text.toList

end BranchLR
