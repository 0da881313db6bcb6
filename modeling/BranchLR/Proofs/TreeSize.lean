import Mathlib.Algebra.Order.BigOperators.Group.List
import Mathlib.Algebra.Order.Ring.Nat
import BranchLR.Proofs.LeftRecursion

/-!
# Derivation trees of bounded size

If the productions are grounded, a derivation tree over a range cannot be arbitrarily large. A child
of a node has a shorter range, or it has the same range, and then its siblings derive nothing and it
is wrapped by the item of the node. So the length of the range and the number of items that can be
wrapped make up a weight that falls from every parent to its children.
-/

namespace BranchLR

mutual

/-- The number of nodes of a tree. -/
def Node.size : Node → Nat
  | .leaf _ => 1
  | .endOfInput => 1
  | .parent _ children => Node.sizeAll children + 1

/-- The number of nodes of several trees. -/
def Node.sizeAll : List Node → Nat
  | [] => 0
  | n :: ns => n.size + Node.sizeAll ns

end

@[simp]
theorem Node.sizeAll_append (as bs : List Node) :
    Node.sizeAll (as ++ bs) = Node.sizeAll as + Node.sizeAll bs := by
  induction as with
  | nil => simp [Node.sizeAll]
  | cons a as ih =>
    simp only [List.cons_append, Node.sizeAll, ih]
    omega

@[simp]
theorem Node.sizeAll_reverse (ns : List Node) : Node.sizeAll ns.reverse = Node.sizeAll ns := by
  induction ns with
  | nil => rfl
  | cons n ns ih =>
    simp only [List.reverse_cons, Node.sizeAll_append, Node.sizeAll, ih]
    omega

/-- Trees of bounded size are together as large as their number allows. -/
theorem Node.sizeAll_le {bound : Nat} {ns : List Node} (h : ∀ n ∈ ns, n.size ≤ bound) :
    Node.sizeAll ns ≤ ns.length * bound := by
  induction ns with
  | nil => simp [Node.sizeAll]
  | cons n ns ih =>
    have hhead := h n List.mem_cons_self
    have htail := ih fun m hm => h m (List.mem_cons_of_mem n hm)
    rw [Node.sizeAll, List.length_cons, Nat.succ_mul]
    omega

/-- The number of nodes below which trees of bounded depth stay. -/
def treeBound (width : Nat) : Nat → Nat
  | 0 => 1
  | depth + 1 => width * treeBound width depth + 1

theorem treeBound_pos (width depth : Nat) : 0 < treeBound width depth := by
  cases depth with
  | zero => exact Nat.one_pos
  | succ depth => exact Nat.succ_pos _

variable [RegexLibrary]

/-- A number of rules that no production exceeds. -/
def width (productions : List Production) : Nat :=
  (productions.map fun production => production.rules.length).sum

theorem length_le_width {productions : List Production} {production : Production}
    (h : production ∈ productions) : production.rules.length ≤ width productions :=
  List.le_sum_of_mem (List.mem_map_of_mem h)

/-- What bounds the depth of a tree of an item over a range. -/
noncomputable def weight (productions : List Production) (A : String) (i j : Nat) : Nat :=
  (j - i) * (productions.length + 1) + wrapRank productions A

variable {productions : List Production} {production : Production} {g : Grammar}
  {input : TokenStream} {admits : Production → Prop}

/-- The weight falls from a parent to a child. -/
theorem Grounded.weight_lt (h : Grounded productions)
    (hadmits : ∀ production, admits production → production ∈ productions)
    (hproduction : admits production) {child : Production} (hchild : admits child)
    {before after : List Rule} (hrules : production.rules = before ++ .item child.item :: after)
    {i i' j' j : Nat} {ms ns : List Node} (hbefore : DerivesAll g input admits before i i' ms)
    (hle : i' ≤ j') (hafter : DerivesAll g input admits after j' j ns) :
    weight productions child.item i' j' < weight productions production.item i j := by
  obtain ⟨hi, -⟩ := hbefore.leaves_eq
  obtain ⟨hj, -⟩ := hafter.leaves_eq
  unfold weight
  by_cases hsame : i' = i ∧ j' = j
  · obtain ⟨rfl, rfl⟩ := hsame
    have hwraps : Wraps productions production.item child.item := by
      refine ⟨before, after, ?_, ?_, ?_⟩
      · rw [← hrules]
        exact hadmits production hproduction
      · exact hbefore.nullable hadmits (Nat.le_refl _)
      · exact hafter.nullable hadmits (Nat.le_refl _)
    have hlt := h.wrapRank_lt (hadmits child hchild) hwraps
    omega
  · have hrank := rank_le_length productions (Relation.TransGen (Wraps productions)) child.item
    have hshorter : j' - i' + 1 ≤ j - i := by omega
    have hmul := Nat.mul_le_mul_right (productions.length + 1) hshorter
    rw [Nat.succ_mul] at hmul
    unfold wrapRank
    omega

/-- The trees of consecutive ranges are bounded together if each of them is, whatever stands on both
sides of it. -/
theorem DerivesAll.sizeAll_le {bound : Nat} {front rules : List Rule} {i j k : Nat}
    {ms ns : List Node} (hfront : DerivesAll g input admits front i j ms)
    (h : DerivesAll g input admits rules j k ns)
    (hbound : ∀ before X after i' j' ms n ns, front ++ rules = before ++ X :: after →
      DerivesAll g input admits before i i' ms → Derives g input admits X i' j' n →
      DerivesAll g input admits after j' k ns → n.size ≤ bound) :
    Node.sizeAll ns ≤ rules.length * bound := by
  induction rules generalizing front j ms ns with
  | nil =>
    cases h
    simp [Node.sizeAll]
  | cons X rules ih =>
    cases h with
    | cons hhead htail =>
      have hfirst := hbound front X rules _ _ _ _ _ rfl hfront hhead htail
      have hmoved := hfront.append (.cons hhead .nil)
      have hrest := ih hmoved htail (by simpa using hbound)
      rw [Node.sizeAll, List.length_cons, Nat.succ_mul]
      omega

/-- **A derivation tree is bounded by the weight of its item.** -/
theorem Grounded.size_parent_le (h : Grounded productions)
    (hadmits : ∀ production, admits production → production ∈ productions) {depth i j : Nat}
    {children : List Node} (hproduction : admits production)
    (hchildren : DerivesAll g input admits production.rules i j children)
    (hweight : weight productions production.item i j < depth) :
    (Node.parent production.item children).size ≤ treeBound (width productions) depth := by
  induction depth generalizing production i j children with
  | zero => omega
  | succ depth ih =>
    have hone := treeBound_pos (width productions) depth
    have hbound : Node.sizeAll children ≤
        production.rules.length * treeBound (width productions) depth := by
      refine DerivesAll.sizeAll_le .nil hchildren ?_
      intro before X after i' j' ms n ns hrules hbefore hX hafter
      cases hX with
      | token => exact hone
      | endOfInput => exact hone
      | @parent child _ _ _ hchild hbelow =>
        obtain ⟨hle, -⟩ := hbelow.leaves_eq
        have hlt := h.weight_lt hadmits hproduction hchild hrules hbefore hle hafter
        exact ih hchild hbelow (by omega)
    have hwidth := length_le_width (hadmits production hproduction)
    have hmul := Nat.mul_le_mul_right (treeBound (width productions) depth) hwidth
    rw [Node.size, treeBound]
    omega

/-- The number of nodes that no derivation tree over the input exceeds. -/
def nodeBound (productions : List Production) (input : TokenStream) : Nat :=
  treeBound (width productions) ((input.size + 1) * (productions.length + 1))

/-- The trees of an input are bounded by its number of tokens. -/
theorem Grounded.size_le (h : Grounded productions)
    (hadmits : ∀ production, admits production → production ∈ productions) {X : Rule} {i j : Nat}
    {n : Node} (hX : Derives g input admits X i j n) (hj : j ≤ input.size) :
    n.size ≤ nodeBound productions input := by
  cases hX with
  | token => exact treeBound_pos _ _
  | endOfInput => exact treeBound_pos _ _
  | @parent production _ _ _ hproduction hchildren =>
    refine h.size_parent_le hadmits hproduction hchildren ?_
    have hrank := rank_le_length productions (Relation.TransGen (Wraps productions)) production.item
    have hrange : j - i ≤ input.size := by omega
    have hmul := Nat.mul_le_mul_right (productions.length + 1) hrange
    unfold weight wrapRank
    rw [Nat.succ_mul]
    omega

end BranchLR
