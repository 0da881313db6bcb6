import BranchLR.Forest
import BranchLR.Position
import BranchLR.Rule
import BranchLR.GrammarText.Printer

/-!
# Failures of a search

A search that does not end in a tree ends in one of these failures. The last two can only arise from
a table that was written by hand and breaks what tables promise.
-/

namespace BranchLR

variable [RegexLibrary]

/-- Why a search ends without a tree. -/
inductive ParseFailure where
  /-- No branch got past this token, the furthest that any branch looked at. -/
  | rejected (token : String) (position : Position)
  /-- Some branch consumed all tokens, the last of which stands at the position. -/
  | unexpectedEnd (position : Position)
  | stepLimit (limit : Nat)
  | missingRow (row : Nat)
  /-- A guard or a rule of a production is a bracket or the empty match. -/
  | unexpandedGuard (guard : Rule)
  /-- A reduction asks for more roots than the forest holds. -/
  | shortForest (label : String) (wanted held : Nat)
  deriving DecidableEq

/-- The failure as it is reported. -/
def ParseFailure.message : ParseFailure → String
  | rejected token p =>
    "unexpected '" ++ token ++ "' at line " ++ toString p.line ++ " column " ++ toString p.column
  | unexpectedEnd p =>
    "unexpected end of input after line " ++ toString p.line ++ " column " ++ toString p.column
  | stepLimit limit => "gave up after " ++ toString limit ++ " steps"
  | missingRow row => "the action table has no row " ++ toString row
  | unexpandedGuard guard =>
    "\x60" ++ guard.render ++ "\x60 cannot guard an action; brackets and \x7bEMPTY\x7d are " ++
      "expanded before tables are built"
  | shortForest label wanted held =>
    if Forest.capacity ≤ wanted then "capacity overflow"
    else
      "reduce of " ++ label ++ " by " ++ toString wanted ++ " roots on a forest of " ++
        toString held

/-- How a search ends. -/
abbrev Outcome := Except ParseFailure Forest

end BranchLR
