import BranchLR.Proofs.Search.Reachable
import BranchLR.Proofs.Search.Traversal

/-!
# Trails through the choice tree

Depth-first search needs to remember only the way from the root to the node it is at, with the
number of the candidate that is being tried at each node on it. A trail goes forward to a child if
there is one, and otherwise retreats to the nearest node that has a candidate left. Everything that
lies before a trail is exhausted, so that what a traversal finds behind the trail is what it finds in
the whole tree, and a trail that cannot retreat has been through all of it.
-/

namespace BranchLR

variable [RegexLibrary]

/-- The nodes from the one being worked on up to the root, each with the number of the candidate that
is tried there. -/
abbrev Trail := List (Snapshot × Nat)

namespace Trail

/-- The nearest node with a candidate left, and that candidate. -/
def retreat : Trail → Trail
  | [] => []
  | (s, i) :: trail =>
    if i + 1 < s.top.untried.length then (s, i + 1) :: trail else retreat trail

/-- The numbers of the candidates from the root down. -/
def address (t : Trail) : List Nat := (t.map Prod.snd).reverse

/-- The snapshots on a trail that can be returned to. -/
def saved (t : Trail) : List Snapshot :=
  (t.filter fun frame => frame.1.top.isChoice).map fun frame => frame.1.selecting frame.2

theorem address_cons (s : Snapshot) (i : Nat) (t : Trail) :
    address ((s, i) :: t) = address t ++ [i] := by
  simp [address]

/-- A retreat leads to a later address. -/
theorem address_lt_retreat {t : Trail} (h : retreat t ≠ []) : address t < address (retreat t) := by
  -- The address of the part that is left behind does not matter, so it is kept arbitrary.
  suffices hsuffix : ∀ rest, address t ++ rest < address (retreat t) by simpa using hsuffix []
  induction t with
  | nil => exact absurd rfl h
  | cons frame t ih =>
    obtain ⟨s, i⟩ := frame
    intro rest
    unfold retreat at h ⊢
    split
    next hmore =>
      rw [address_cons, address_cons, List.append_assoc]
      exact List.append_left_lt (List.cons_lt_cons_iff.2 (.inl (Nat.lt_succ_self i)))
    next hlast =>
      rw [if_neg hlast] at h
      rw [address_cons, List.append_assoc]
      exact ih h ([i] ++ rest)

end Trail

namespace Problem

variable {p : Problem}

/-- A trail from the root all of whose candidates are where they were found, and before which
everything is exhausted. The root may be without candidates, all other nodes have some. -/
inductive OnTrail (p : Problem) : Trail → Prop
  | root {i : Nat} (hi : i < p.root.top.untried.length ∨ i = 0)
      (hspent : ∀ j, j < i → p.Spent p.root j) : OnTrail p [(p.root, i)]
  | child {s child : Snapshot} {i j : Nat} {t : Trail} (htrail : OnTrail p ((s, i) :: t))
      (hbranch : p.branch s i = some (.node child)) (hj : j < child.top.untried.length)
      (hspent : ∀ k, k < j → p.Spent child k) : OnTrail p ((child, j) :: (s, i) :: t)

/-- The trail that a depth-first search is on after the one it is on. -/
def forward (p : Problem) : Trail → Trail
  | [] => []
  | (s, i) :: t =>
    match p.branch s i with
    | some (.node child) => (child, 0) :: (s, i) :: t
    | _ => Trail.retreat ((s, i) :: t)

theorem OnTrail.exists_cons {t : Trail} (h : p.OnTrail t) : ∃ s i below, t = (s, i) :: below := by
  cases h with
  | root => exact ⟨_, _, _, rfl⟩
  | child => exact ⟨_, _, _, rfl⟩

/-- The address of a trail leads to its node. -/
theorem OnTrail.nodeAt {s : Snapshot} {i : Nat} {t : Trail} :
    p.OnTrail ((s, i) :: t) → p.nodeAt p.root (Trail.address t) = some s
  | .root _ _ => rfl
  | .child htrail hbranch _ _ => by
    rw [Trail.address_cons, nodeAt_append, htrail.nodeAt]
    simp [Problem.nodeAt, hbranch]

/-- Behind a candidate that has failed a trail retreats, or the whole tree is exhausted. -/
theorem OnTrail.retreat {s : Snapshot} {i : Nat} {t : Trail} (hspent : p.Spent s i) :
    p.OnTrail ((s, i) :: t) → p.OnTrail (Trail.retreat ((s, i) :: t)) ∨
      Trail.retreat ((s, i) :: t) = [] ∧ p.Exhausted p.root
  | .root _ hbefore => by
    unfold Trail.retreat
    split
    next hmore =>
      refine .inl (.root (.inl hmore) fun j hj => ?_)
      rcases Nat.lt_succ_iff_lt_or_eq.1 hj with hj | rfl
      · exact hbefore j hj
      · exact hspent
    next hlast => exact .inr ⟨rfl, exhausted_of_last (Nat.le_of_not_lt hlast) hspent hbefore⟩
  | .child htrail hbranch _ hbefore => by
    unfold Trail.retreat
    split
    next hmore =>
      refine .inl (.child htrail hbranch hmore fun j hj => ?_)
      rcases Nat.lt_succ_iff_lt_or_eq.1 hj with hj | rfl
      · exact hbefore j hj
      · exact hspent
    next hlast =>
      have hexhausted := exhausted_of_last (Nat.le_of_not_lt hlast) hspent hbefore
      refine htrail.retreat ⟨fun f hf => by simp [hbranch] at hf, fun child hchild => ?_⟩
      cases hbranch.symm.trans hchild
      exact hexhausted

/-- What a traversal finds behind a trail is what it finds in the whole tree. -/
theorem OnTrail.visits {s : Snapshot} {i : Nat} {t : Trail} {f : Forest}
    (hvisits : p.Visits s i (some f)) : p.OnTrail ((s, i) :: t) → p.Visits p.root 0 (some f)
  | .root hi hbefore => hvisits.of_spent (by omega) hbefore
  | .child htrail hbranch hi hbefore =>
    htrail.visits (.found hbranch (hvisits.of_spent (Nat.le_of_lt hi) hbefore))

end Problem

end BranchLR
