import Mathlib.Data.Set.Finite.Lattice
import BranchLR.Proofs.Search.Candidates
import BranchLR.Proofs.Search.Moves

/-!
# The choice tree

A node of the choice tree is a snapshot whose top entry has just been pushed. Each of its candidates
may lead to a child, to an accepting leaf, or nowhere. The tree is looked at in two ways: by the
addresses of its nodes, which are the numbers of the candidates on the way from the root, and by an
inductive condition that says that nothing in it is accepted and that it has an end. This condition
holds of the finite trees without accepting leaves.
-/

namespace BranchLR

variable [RegexLibrary]

/-- The snapshot with a later candidate selected, counted from the one that is selected. -/
def Snapshot.selecting (s : Snapshot) (i : Nat) : Snapshot :=
  { s with
    top :=
      { s.top with
        tried := (s.top.untried.take i).reverse ++ s.top.tried
        untried := s.top.untried.drop i } }

/-- What a candidate can lead to. -/
inductive Branch where
  /-- A child, which has candidates of its own. -/
  | node (child : Snapshot)
  /-- An accepting leaf with its forest. -/
  | leaf (forest : Forest)

namespace Problem

variable {p : Problem} {s child : Snapshot} {i : Nat} {f : Forest}

/-- What the candidate with the given number leads to. -/
def branch (p : Problem) (s : Snapshot) (i : Nat) : Option Branch :=
  if i < s.top.untried.length then
    match p.attempt (s.selecting i) with
    | .ok .accepted => some (.leaf s.forest)
    | .ok (.moved _ child) => some (.node child)
    | _ => none
  else none

/-- The node at an address, which lists the numbers of the candidates on the way to it. -/
def nodeAt (p : Problem) (s : Snapshot) : List Nat → Option Snapshot
  | [] => some s
  | i :: address =>
    match p.branch s i with
    | some (.node child) => p.nodeAt child address
    | _ => none

/-- Whether the choice tree below a snapshot has finitely many nodes. -/
def FiniteTree (p : Problem) (s : Snapshot) : Prop :=
  {address | (p.nodeAt s address).isSome}.Finite

/-- Whether no candidate of any node of the choice tree below a snapshot is accepted. -/
def LeafFree (p : Problem) (s : Snapshot) : Prop :=
  ∀ address t i f, p.nodeAt s address = some t → p.branch t i ≠ some (.leaf f)

/-- A node below which nothing is accepted, and below which there is an end to everything. -/
inductive Exhausted (p : Problem) : Snapshot → Prop
  | intro {s : Snapshot} (hleaf : ∀ i f, p.branch s i ≠ some (.leaf f))
      (hnode : ∀ i child, p.branch s i = some (.node child) → Exhausted p child) : Exhausted p s

theorem selecting_zero (s : Snapshot) : s.selecting 0 = s := rfl

/-- Only candidates lead anywhere. -/
theorem lt_of_branch {b : Branch} (h : p.branch s i = some b) : i < s.top.untried.length := by
  unfold branch at h
  split at h
  · assumption
  · cases h

/-- A candidate leads to a child when its action applies. -/
theorem branch_node_iff : p.branch s i = some (.node child) ↔
    i < s.top.untried.length ∧ p.Moves (s.selecting i) child := by
  rw [← attempt_moved_iff]
  unfold branch
  split
  next hi =>
    constructor
    · intro h
      split at h <;> simp_all
    · rintro ⟨-, event, hattempt⟩
      simp [hattempt]
  next hi => simp [hi]

/-- A candidate leads to an accepting leaf when the snapshot is accepted with it. -/
theorem branch_leaf_iff : p.branch s i = some (.leaf f) ↔
    i < s.top.untried.length ∧ p.attempt (s.selecting i) = .ok .accepted ∧ f = s.forest := by
  unfold branch
  split
  next hi =>
    constructor
    · intro h
      split at h <;> simp_all
    · rintro ⟨-, hattempt, rfl⟩
      simp [hattempt]
  next hi => simp [hi]

/-- An address in two parts leads to the second part below the first. -/
theorem nodeAt_append (p : Problem) (s : Snapshot) (first second : List Nat) :
    p.nodeAt s (first ++ second) = (p.nodeAt s first).bind fun t => p.nodeAt t second := by
  induction first generalizing s with
  | nil => rfl
  | cons i first ih =>
    simp only [List.cons_append, nodeAt]
    split
    next child _ => exact ih child
    next => rfl

/-! ### Exhausted trees are finite and free of accepting leaves -/

theorem Exhausted.leafFree (h : p.Exhausted s) : p.LeafFree s := by
  intro address t i f ht
  induction address generalizing s with
  | nil =>
    cases ht
    cases h with
    | intro hleaf _ => exact hleaf i f
  | cons j address ih =>
    unfold nodeAt at ht
    split at ht
    next child hbranch =>
      cases h with
      | intro _ hnode => exact ih (hnode j child hbranch) ht
    next => cases ht

theorem Exhausted.finiteTree (h : p.Exhausted s) : p.FiniteTree s := by
  induction h with
  | @intro s _ hnode ih =>
    -- Every address but the root's begins with the number of a candidate.
    let below (i : Nat) : Set (List Nat) :=
      {address | ∃ child rest, p.branch s i = some (.node child) ∧ (p.nodeAt child rest).isSome ∧
        address = i :: rest}
    have hbelow : ∀ i, (below i).Finite := by
      intro i
      cases hbranch : p.branch s i with
      | none => exact Set.finite_empty.subset (by rintro _ ⟨_, _, h, -⟩; simp [hbranch] at h)
      | some b =>
        cases b with
        | leaf f => exact Set.finite_empty.subset (by rintro _ ⟨_, _, h, -⟩; simp [hbranch] at h)
        | node child =>
          refine ((ih i child hbranch).image (i :: ·)).subset ?_
          rintro _ ⟨child', rest, h, hrest, rfl⟩
          cases hbranch.symm.trans h
          exact ⟨rest, hrest, rfl⟩
    have hall : (⋃ i ∈ {i | i < s.top.untried.length}, below i).Finite :=
      (Set.finite_lt_nat _).biUnion fun i _ => hbelow i
    refine (hall.insert []).subset ?_
    intro address haddress
    cases address with
    | nil => exact .inl rfl
    | cons i rest =>
      simp only [Set.mem_ofPred_eq, nodeAt] at haddress
      split at haddress
      next child hbranch =>
        exact .inr (Set.mem_biUnion (lt_of_branch hbranch) ⟨child, rest, hbranch, haddress, rfl⟩)
      next => cases haddress

/-- A tree of bounded depth without accepting leaves is exhausted. -/
theorem exhausted_of_depth_le {depth : Nat} (hleaf : p.LeafFree s)
    (hdepth : ∀ address, (p.nodeAt s address).isSome → address.length ≤ depth) :
    p.Exhausted s := by
  induction depth generalizing s with
  | zero =>
    refine .intro (fun i f => hleaf [] s i f rfl) fun i child hbranch => ?_
    have hchild := hdepth [i] (by simp [nodeAt, hbranch])
    simp at hchild
  | succ depth ih =>
    refine .intro (fun i f => hleaf [] s i f rfl) fun i child hbranch => ih ?_ ?_
    · intro address t j f ht
      exact hleaf (i :: address) t j f (by simpa [nodeAt, hbranch] using ht)
    · intro address haddress
      have hlength := hdepth (i :: address) (by simpa [nodeAt, hbranch] using haddress)
      simpa using hlength

/-- Exhausted trees are the finite ones without accepting leaves. -/
theorem exhausted_iff : p.Exhausted s ↔ p.FiniteTree s ∧ p.LeafFree s := by
  constructor
  · exact fun h => ⟨h.finiteTree, h.leafFree⟩
  · rintro ⟨hfinite, hleaf⟩
    obtain ⟨depth, hdepth⟩ := (hfinite.image List.length).bddAbove
    exact exhausted_of_depth_le hleaf fun address haddress => hdepth ⟨address, haddress, rfl⟩

end Problem

end BranchLR
