import BranchLR.Proofs.Search.ChoiceTree

/-!
# The depth-first traversal of the choice tree

The plain traversal from left to right, as a relation: it need not come to an end, but when it does
it has one result, the forest of the first accepting leaf or nothing. It passes over every candidate
below which everything is exhausted, and finds nothing in an exhausted tree.
-/

namespace BranchLR.Problem

variable [RegexLibrary]

variable {p : Problem} {s : Snapshot} {i : Nat}

/-- `Visits p s i result`: the depth-first traversal from left to right of what the candidates of a
node lead to, from the one with number `i` on, comes to an end. It finds the forest of the first
accepting leaf, or nothing. -/
inductive Visits (p : Problem) : Snapshot → Nat → Option Forest → Prop
  | done {s : Snapshot} {i : Nat} (hlast : s.top.untried.length ≤ i) : Visits p s i none
  | leaf {s : Snapshot} {i : Nat} {f : Forest} (hbranch : p.branch s i = some (.leaf f)) :
      Visits p s i (some f)
  | found {s child : Snapshot} {i : Nat} {f : Forest} (hbranch : p.branch s i = some (.node child))
      (hchild : Visits p child 0 (some f)) : Visits p s i (some f)
  | back {s child : Snapshot} {i : Nat} {result : Option Forest}
      (hbranch : p.branch s i = some (.node child)) (hchild : Visits p child 0 none)
      (hrest : Visits p s (i + 1) result) : Visits p s i result
  | skip {s : Snapshot} {i : Nat} {result : Option Forest} (hmore : i < s.top.untried.length)
      (hbranch : p.branch s i = none) (hrest : Visits p s (i + 1) result) : Visits p s i result

/-- What becomes of one candidate in a traversal that goes on behind it. -/
def Spent (p : Problem) (s : Snapshot) (i : Nat) : Prop :=
  (∀ f, p.branch s i ≠ some (.leaf f)) ∧
    ∀ child, p.branch s i = some (.node child) → p.Exhausted child

theorem exhausted_iff_spent : p.Exhausted s ↔ ∀ i, p.Spent s i :=
  ⟨fun ⟨hleaf, hnode⟩ i => ⟨hleaf i, hnode i⟩, fun h => .intro (fun i => (h i).1) fun i => (h i).2⟩

/-- Behind the last candidate there is nothing to fail. -/
theorem spent_of_length_le (h : s.top.untried.length ≤ i) : p.Spent s i := by
  have hbranch : ∀ b, p.branch s i ≠ some b := fun b hb => by
    have := lt_of_branch hb
    omega
  exact ⟨fun f => hbranch _, fun child hchild => absurd hchild (hbranch _)⟩

/-- A node whose last candidate has failed after all others is exhausted. -/
theorem exhausted_of_last (hlast : s.top.untried.length ≤ i + 1) (hspent : p.Spent s i)
    (hbefore : ∀ j, j < i → p.Spent s j) : p.Exhausted s := by
  refine exhausted_iff_spent.2 fun j => ?_
  rcases Nat.lt_trichotomy j i with hj | rfl | hj
  · exact hbefore j hj
  · exact hspent
  · exact spent_of_length_le (by omega)

/-- A traversal passes over a candidate below which it finds nothing. -/
theorem Visits.pass {result : Option Forest} (hmore : i < s.top.untried.length)
    (hleaf : ∀ f, p.branch s i ≠ some (.leaf f))
    (hnode : ∀ child, p.branch s i = some (.node child) → p.Visits child 0 none)
    (hrest : p.Visits s (i + 1) result) : p.Visits s i result := by
  cases hbranch : p.branch s i with
  | none => exact .skip hmore hbranch hrest
  | some b =>
    cases b with
    | leaf f => exact absurd hbranch (hleaf f)
    | node child => exact .back hbranch (hnode child hbranch) hrest

/-- The traversal of an exhausted tree ends without a result. -/
theorem Exhausted.visits (h : p.Exhausted s) (i : Nat) : p.Visits s i none := by
  induction h generalizing i with
  | @intro s hleaf _ ih =>
    generalize hleft : s.top.untried.length - i = left
    induction left generalizing i with
    | zero => exact .done (by omega)
    | succ left ihleft =>
      refine .pass (by omega) (hleaf i) (fun child hbranch => ih i child hbranch 0) ?_
      exact ihleft (i + 1) (by omega)

/-- Candidates that have failed are passed over. -/
theorem Visits.of_spent {result : Option Forest} (h : p.Visits s i result)
    (hi : i ≤ s.top.untried.length) (hspent : ∀ j, j < i → p.Spent s j) :
    p.Visits s 0 result := by
  induction i with
  | zero => exact h
  | succ i ih =>
    obtain ⟨hleaf, hnode⟩ := hspent i (Nat.lt_succ_self i)
    refine ih ?_ (Nat.le_of_lt hi) fun j hj => hspent j (Nat.lt_succ_of_lt hj)
    exact .pass hi hleaf (fun child hbranch => (hnode child hbranch).visits 0) h

/-- A traversal comes to one result. -/
theorem Visits.unique {first second : Option Forest} (h : p.Visits s i first)
    (h' : p.Visits s i second) : first = second := by
  induction h generalizing second with
  | done hlast =>
    cases h' with
    | done => rfl
    | leaf hbranch | found hbranch | back hbranch =>
      have := lt_of_branch hbranch
      omega
    | skip hmore => omega
  | leaf hbranch =>
    cases h' with
    | done hlast =>
      have := lt_of_branch hbranch
      omega
    | leaf hbranch' =>
      cases hbranch.symm.trans hbranch'
      rfl
    | found hbranch' | back hbranch' | skip _ hbranch' => cases hbranch.symm.trans hbranch'
  | found hbranch _ ih =>
    cases h' with
    | done hlast =>
      have := lt_of_branch hbranch
      omega
    | leaf hbranch' | skip _ hbranch' => cases hbranch.symm.trans hbranch'
    | found hbranch' hchild =>
      cases hbranch.symm.trans hbranch'
      exact ih hchild
    | back hbranch' hchild =>
      cases hbranch.symm.trans hbranch'
      cases ih hchild
  | back hbranch _ _ ihchild ihrest =>
    cases h' with
    | done hlast =>
      have := lt_of_branch hbranch
      omega
    | leaf hbranch' | skip _ hbranch' => cases hbranch.symm.trans hbranch'
    | found hbranch' hchild =>
      cases hbranch.symm.trans hbranch'
      cases ihchild hchild
    | back hbranch' _ hrest => exact ihrest hrest
  | skip hmore hbranch _ ih =>
    cases h' with
    | done hlast => omega
    | leaf hbranch' | found hbranch' | back hbranch' => cases hbranch.symm.trans hbranch'
    | skip _ _ hrest => exact ih hrest

end BranchLR.Problem
