import BranchLR.Proofs.Search.DepthFirst
import BranchLR.Proofs.Search.Rejections

/-!
# A rejected search has looked everywhere

As long as no checkpoint gives way, a search that goes on along its trail has looked at everything
that lies before the trail, and its furthest place is no nearer than any place it has looked at.
When nothing is left to try, the trail has gone through the whole choice tree. So no candidate of
any node looks at a place behind the one that the search names.
-/

namespace BranchLR.Problem

variable [RegexLibrary]

variable {p : Problem} {r r' : Run} {s : Snapshot} {i furthest further n : Nat} {t : Trail}

/-! ### What holds of the nodes of a choice tree -/

/-- What every advance preserves holds of a node with any candidate selected. -/
theorem selecting_induction {I : Snapshot → Prop}
    (hadvance : ∀ s next, I s → s.advance? = some next → I next) (hs : I s)
    (hi : i < s.top.untried.length) : I (s.selecting i) := by
  induction i with
  | zero => exact hs
  | succ i ih =>
    have hbefore : I (s.selecting i) := ih (by omega)
    have hnext : (s.selecting i).advance? = some (s.selecting (i + 1)) := by
      rw [Snapshot.advance?_selecting, if_pos hi]
    exact hadvance _ _ hbefore hnext

/-- What a node satisfies, and every move and every advance preserves, holds of every node below
it. -/
theorem nodeAt_induction {I : Snapshot → Prop}
    (hmoves : ∀ s next, I s → p.Moves s next → I next)
    (hadvance : ∀ s next, I s → s.advance? = some next → I next) (hs : I s)
    {address : List Nat} {below : Snapshot} (h : p.nodeAt s address = some below) : I below := by
  induction address generalizing s with
  | nil =>
    cases h
    exact hs
  | cons i address ih =>
    unfold nodeAt at h
    split at h
    next child hbranch =>
      obtain ⟨hi, hmove⟩ := branch_node_iff.1 hbranch
      have hselected : I (s.selecting i) := selecting_induction hadvance hs hi
      exact ih (hmoves _ _ hselected hmove) h
    next => cases h

/-- The nodes of an exhausted tree are exhausted. -/
theorem Exhausted.nodeAt (h : p.Exhausted s) {address : List Nat} {below : Snapshot}
    (hbelow : p.nodeAt s address = some below) : p.Exhausted below := by
  induction address generalizing s with
  | nil =>
    cases hbelow
    exact h
  | cons i address ih =>
    unfold Problem.nodeAt at hbelow
    split at hbelow
    next child hbranch =>
      cases h with
      | intro _ hnode => exact ih (hnode i child hbranch) hbelow
    next => cases hbelow

/-! ### Parts of a choice tree that have been looked at -/

/-- Whatever is looked at in the choice tree below a node, the node included, lies no further than
the given place. -/
def Surveyed (p : Problem) (furthest : Nat) (s : Snapshot) : Prop :=
  ∀ address t i, p.nodeAt s address = some t → i < t.top.untried.length →
    lookedAt (t.selecting i) 0 ≤ furthest

/-- Whatever one candidate of a node looks at, and all that it leads to, lies no further than the
given place. -/
def SurveyedFrom (p : Problem) (furthest : Nat) (s : Snapshot) (i : Nat) : Prop :=
  lookedAt (s.selecting i) 0 ≤ furthest ∧
    ∀ child, p.branch s i = some (.node child) → p.Surveyed furthest child

theorem Surveyed.mono (h : p.Surveyed furthest s) (hle : furthest ≤ further) :
    p.Surveyed further s := by
  intro address t i ht hi
  exact Nat.le_trans (h address t i ht hi) hle

theorem SurveyedFrom.mono (h : p.SurveyedFrom furthest s i) (hle : furthest ≤ further) :
    p.SurveyedFrom further s i := by
  refine ⟨Nat.le_trans h.1 hle, ?_⟩
  intro child hbranch
  exact (h.2 child hbranch).mono hle

/-- A node has been looked at when all its candidates have. -/
theorem surveyed_of_forall (h : ∀ i, i < s.top.untried.length → p.SurveyedFrom furthest s i) :
    p.Surveyed furthest s := by
  intro address t i ht hi
  cases address with
  | nil =>
    cases ht
    exact (h i hi).1
  | cons j address =>
    unfold nodeAt at ht
    split at ht
    next child hbranch => exact (h j (lt_of_branch hbranch)).2 child hbranch address t i ht hi
    next => cases ht

theorem Surveyed.child {child : Snapshot} (h : p.Surveyed furthest s)
    (hbranch : p.branch s i = some (.node child)) : p.Surveyed furthest child := by
  intro address t j ht hj
  exact h (i :: address) t j (by simpa [nodeAt, hbranch] using ht) hj

/-- Trying an action looks at its own place or at none. -/
theorem lookedAt_eq_max (s : Snapshot) (furthest : Nat) :
    lookedAt s furthest = max furthest (lookedAt s 0) := by
  unfold lookedAt
  split
  · exact (Nat.max_zero furthest).symm
  · rw [Nat.zero_max]

/-! ### The trail of a search -/

/-- Whatever lies before a trail lies no further than the given place, and so does what the
candidates on the trail look at, except for the one that comes next. -/
structure Behind (p : Problem) (furthest : Nat) (t : Trail) : Prop where
  before : ∀ frame ∈ t, ∀ j, j < frame.2 → p.SurveyedFrom furthest frame.1 j
  passed : ∀ frame ∈ t.tail, lookedAt (frame.1.selecting frame.2) 0 ≤ furthest

theorem Behind.mono (h : p.Behind furthest t) (hle : furthest ≤ further) : p.Behind further t := by
  refine ⟨?_, ?_⟩
  · intro frame hframe j hj
    exact (h.before frame hframe j hj).mono hle
  · intro frame hframe
    exact Nat.le_trans (h.passed frame hframe) hle

theorem behind_nil (p : Problem) (furthest : Nat) : p.Behind furthest [] := by
  refine ⟨?_, ?_⟩
  · intro frame hframe
    cases hframe
  · intro frame hframe
    cases hframe

/-- The next candidate of a node comes behind all before it. -/
theorem Behind.next (h : p.Behind furthest ((s, i) :: t)) (hhere : p.SurveyedFrom furthest s i) :
    p.Behind furthest ((s, i + 1) :: t) := by
  refine ⟨?_, h.passed⟩
  intro frame hframe j hj
  rcases List.mem_cons.1 hframe with rfl | hframe
  · rcases Nat.lt_succ_iff_lt_or_eq.1 hj with hj | rfl
    · exact h.before (s, i) List.mem_cons_self j hj
    · exact hhere
  · exact h.before frame (List.mem_cons_of_mem _ hframe) j hj

/-- A node whose last candidate has been looked at behind all others has been looked at. -/
theorem Behind.surveyed (h : p.Behind furthest ((s, i) :: t)) (hhere : p.SurveyedFrom furthest s i)
    (hlast : ¬i + 1 < s.top.untried.length) : p.Surveyed furthest s := by
  refine surveyed_of_forall fun j hj => ?_
  rcases Nat.lt_trichotomy j i with hji | rfl | hij
  · exact h.before (s, i) List.mem_cons_self j hji
  · exact hhere
  · omega

/-- A retreat leaves only what has been looked at, and the whole tree if there is nothing to retreat
to. -/
theorem Behind.retreat (ht : p.OnTrail ((s, i) :: t)) (hhere : p.SurveyedFrom furthest s i)
    (h : p.Behind furthest ((s, i) :: t)) :
    p.Behind furthest (Trail.retreat ((s, i) :: t)) ∧
      (Trail.retreat ((s, i) :: t) = [] → p.Surveyed furthest p.root) := by
  induction t generalizing s i with
  | nil =>
    cases ht
    unfold Trail.retreat
    split
    next => exact ⟨h.next hhere, fun hnil => absurd hnil (List.cons_ne_nil _ _)⟩
    next hlast => exact ⟨behind_nil p furthest, fun _ => h.surveyed hhere hlast⟩
  | cons frame t ih =>
    cases ht with
    | @child parent _ j _ _ htrail hbranch _ _ =>
      unfold Trail.retreat
      split
      next => exact ⟨h.next hhere, fun hnil => absurd hnil (List.cons_ne_nil _ _)⟩
      next hlast =>
        have hsurveyed := h.surveyed hhere hlast
        have hparent : p.SurveyedFrom furthest parent j := by
          refine ⟨h.passed (parent, j) List.mem_cons_self, ?_⟩
          intro child hchild
          cases hbranch.symm.trans hchild
          exact hsurveyed
        have hbelow : p.Behind furthest ((parent, j) :: t) := by
          refine ⟨?_, ?_⟩
          · intro frame hframe
            exact h.before frame (List.mem_cons_of_mem _ hframe)
          · intro frame hframe
            exact h.passed frame (List.mem_cons_of_mem _ hframe)
        exact ih htrail hparent hbelow

/-- A candidate whose action does not apply has been looked at with its own place. -/
theorem surveyedFrom_of_stuck {event : Option Event}
    (hstuck : p.attempt (s.selecting i) = .ok (.stuck event)) (furthest : Nat) :
    p.SurveyedFrom (lookedAt (s.selecting i) furthest) s i := by
  refine ⟨?_, ?_⟩
  · rw [lookedAt_eq_max _ furthest]
    exact Nat.le_max_right _ _
  · intro child hbranch
    rw [branch_eq_none_of_stuck hstuck] at hbranch
    cases hbranch

/-- A search that goes on has looked at everything before its trail. -/
theorem behind_trailAt (hhorizon : 0 < p.horizon) (hkeeps : p.KeepsAll)
    (h : p.advance n p.start = .running r) : p.Behind r.furthest (p.trailAt n) := by
  induction n generalizing r with
  | zero =>
    cases h
    refine ⟨?_, nofun⟩
    intro frame hframe j hj
    obtain rfl := List.mem_singleton.1 hframe
    exact absurd hj (Nat.not_lt_zero j)
  | succ n ih =>
    obtain ⟨r₁, hr₁, htakes⟩ := exists_takes_of_running h
    obtain ⟨ht, hfollows⟩ := follows_trailAt hhorizon hkeeps hr₁
    obtain ⟨s, i, below, htrail⟩ := ht.exists_cons
    have hbehind := ih hr₁
    rw [htrail] at ht hfollows hbehind
    have hcurrent : s.selecting i = r₁.current := by simpa using hfollows.current
    have hlater := hbehind.mono (le_lookedAt r₁.current r₁.furthest)
    show p.Behind r.furthest (p.forward (p.trailAt n))
    rw [htakes.furthest_eq, htrail]
    cases htakes with
    | @move next hmoves =>
      have hlt : i < s.top.untried.length := Moves.lt_length (hcurrent ▸ hmoves)
      have hbranch : p.branch s i = some (.node next) :=
        branch_node_iff.2 ⟨hlt, hcurrent ▸ hmoves⟩
      simp only [forward, hbranch]
      refine ⟨?_, ?_⟩
      · intro frame hframe j hj
        rcases List.mem_cons.1 hframe with rfl | hframe
        · exact absurd hj (Nat.not_lt_zero j)
        · exact hlater.before frame hframe j hj
      · intro frame hframe
        rcases List.mem_cons.1 hframe with rfl | hframe
        · rw [hcurrent, lookedAt_eq_max r₁.current r₁.furthest]
          exact Nat.le_max_right _ _
        · exact hlater.passed frame hframe
    | nextCandidate _ hzero => omega
    | backtrack hstuck =>
      rw [← hcurrent] at hstuck hlater ⊢
      simp only [forward, branch_eq_none_of_stuck hstuck]
      exact (Behind.retreat ht (surveyedFrom_of_stuck hstuck r₁.furthest) hlater).1

/-- **A search with nothing left to try has looked at the whole choice tree.** -/
theorem surveyed_of_outOfBranches (hhorizon : 0 < p.horizon) (hkeeps : p.KeepsAll)
    (h : p.advance n p.start = .running r) (hout : p.OutOfBranches r) :
    p.Surveyed (lookedAt r.current r.furthest) p.root := by
  obtain ⟨ht, hfollows⟩ := follows_trailAt hhorizon hkeeps h
  obtain ⟨s, i, below, htrail⟩ := ht.exists_cons
  have hbehind := behind_trailAt hhorizon hkeeps h
  rw [htrail] at ht hfollows hbehind
  have hcurrent : s.selecting i = r.current := by simpa using hfollows.current
  have hlater := hbehind.mono (le_lookedAt r.current r.furthest)
  obtain ⟨event, hstuck⟩ := hout.stuck
  rw [← hcurrent] at hstuck hlater ⊢
  refine (Behind.retreat ht (surveyedFrom_of_stuck hstuck r.furthest) hlater).2 ?_
  have hretry := Trail.retry_eq hfollows.saved
  rw [hout.none_left, Option.map_none] at hretry
  simpa using hretry.symm

end BranchLR.Problem
