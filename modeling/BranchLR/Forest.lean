import BranchLR.Text.Quoted

/-!
# Parse forests

While parsing, the trees built so far stand side by side as the roots of a forest. A shift adds a
leaf, and a reduction puts the last roots under a new parent. A complete parse leaves one root.
-/

namespace BranchLR

/-- A parse tree. -/
inductive Node where
  /-- A token, by its text. -/
  | leaf (text : String)
  /-- The end of the input, where a rule asked for it. -/
  | endOfInput
  /-- An item, by its name, over the trees of a production. -/
  | parent (label : String) (children : List Node)

namespace Node

mutual

/-- Whether two trees are the same. -/
def same : Node → Node → Bool
  | leaf a, leaf b => a == b
  | endOfInput, endOfInput => true
  | parent a as, parent b bs => a == b && sameAll as bs
  | _, _ => false

/-- Whether two rows hold the same trees. -/
def sameAll : List Node → List Node → Bool
  | [], [] => true
  | a :: as, b :: bs => same a b && sameAll as bs
  | _, _ => false

end

mutual

theorem same_iff : ∀ a b : Node, same a b = true ↔ a = b
  | leaf _, b => by cases b <;> simp [same]
  | endOfInput, b => by cases b <;> simp [same]
  | parent _ children, b => by cases b <;> simp [same, sameAll_iff children]

theorem sameAll_iff : ∀ as bs : List Node, sameAll as bs = true ↔ as = bs
  | [], bs => by cases bs <;> simp [sameAll]
  | a :: as, bs => by cases bs <;> simp [sameAll, same_iff a, sameAll_iff as]

end

instance : DecidableEq Node := fun a b => decidable_of_iff _ (same_iff a b)

/-- What a tree is labelled with. -/
def label : Node → String
  | leaf text => text
  | endOfInput => "\x7bEOF\x7d"
  | parent label _ => label

mutual

/-- A tree as it is shown: leaves are quoted, and a parent stands before its children. -/
def render : Node → String
  | leaf text => quoted text
  | endOfInput => quoted "\x7bEOF\x7d"
  | parent label children => label ++ "(" ++ renderAll children ++ ")"

/-- Trees in a row, separated by spaces. -/
def renderAll : List Node → String
  | [] => ""
  | [n] => n.render
  | n :: rest => n.render ++ " " ++ renderAll rest

end

mutual

/-- The texts of the tokens of a tree, in order. -/
def leaves : Node → List String
  | leaf text => [text]
  | endOfInput => []
  | parent _ children => leavesAll children

/-- The texts of the tokens of several trees, in order. -/
def leavesAll : List Node → List String
  | [] => []
  | n :: rest => n.leaves ++ leavesAll rest

end

mutual

/-- The nodes of a tree at the given depth, each with its own depth; a parent comes before its
children. -/
def preorder (depth : Nat) : Node → List (Nat × Node)
  | parent label children => (depth, parent label children) :: preorderAll (depth + 1) children
  | n => [(depth, n)]

/-- The nodes of several trees at the given depth, each with its own depth. -/
def preorderAll (depth : Nat) : List Node → List (Nat × Node)
  | [] => []
  | n :: rest => n.preorder depth ++ preorderAll depth rest

end

end Node

/-- The trees built so far, the newest first. -/
structure Forest where
  newestFirst : List Node := []
  deriving DecidableEq

namespace Forest

/-- The roots, the oldest first. -/
def roots (f : Forest) : List Node := f.newestFirst.reverse

/-- The root of a complete parse. -/
def root? (f : Forest) : Option Node :=
  match f.newestFirst with
  | [n] => some n
  | _ => none

/-- Adds a root. -/
def push (f : Forest) (n : Node) : Forest := ⟨n :: f.newestFirst⟩

/-- A number of roots that no forest reaches: so many eight-byte references fill half of a 64-bit
address space. -/
def capacity : Nat := 0x1000000000000000

/-- Puts the last `n` roots under a new parent, if there are so many. -/
def reduce? (f : Forest) (label : String) (n : Nat) : Option Forest :=
  let children := f.newestFirst.take n
  if children.length = n then
    some ⟨.parent label children.reverse :: f.newestFirst.drop n⟩
  else none

/-- The texts of the tokens, in order. -/
def leaves (f : Forest) : List String := Node.leavesAll f.roots

/-- A forest as it is shown. -/
def render (f : Forest) : String := Node.renderAll f.roots

end Forest

end BranchLR
