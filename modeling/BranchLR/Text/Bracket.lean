/-!
# Brackets

Which characters open or close a bracket is given from outside, as a set that holds at least the
brackets of ASCII.
-/

namespace BranchLR

/-- The brackets of ASCII. -/
def asciiBrackets : List Char := ['(', ')', '[', ']', '\x7b', '\x7d']

/-- The characters that open or close a bracket. -/
class BracketSet where
  isBracket : Char → Bool
  isBracket_of_ascii : ∀ c ∈ asciiBrackets, isBracket c = true

end BranchLR
