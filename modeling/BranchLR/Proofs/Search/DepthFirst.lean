import BranchLR.Proofs.Search.Following
import BranchLR.Proofs.Search.Safety
import BranchLR.Proofs.Search.Soundness

/-!
# The search is depth-first

As long as no checkpoint gives way, a search follows its trail through the choice tree from step to
step. So it accepts exactly when the depth-first traversal finds an accepting leaf, with the forest
of the first one, it rejects exactly when the choice tree is finite and free of accepting leaves, and
it never tries a candidate twice.
-/

namespace BranchLR.Problem

section Library

variable [RegexLibrary]

variable {p : Problem} {r r' : Run} {s : Snapshot} {i : Nat} {t : Trail} {o : Outcome}

/-- The trail that a depth-first search is on after the given number of steps. -/
def trailAt (p : Problem) : Nat → Trail
  | 0 => [(p.root, 0)]
  | n + 1 => p.forward (p.trailAt n)

/-- A search follows the trail of the depth-first search from step to step. -/
theorem follows_trailAt (hhorizon : 0 < p.horizon) (hkeeps : p.KeepsAll) {n : Nat}
    (h : p.advance n p.start = .running r) :
    p.OnTrail (p.trailAt n) ∧ Follows (p.trailAt n) r := by
  induction n generalizing r with
  | zero =>
    cases h
    exact ⟨p.onTrail_start, follows_start hhorizon⟩
  | succ n ih =>
    obtain ⟨r₁, hr₁, htakes⟩ := exists_takes_of_running h
    obtain ⟨ht, hfollows⟩ := ih hr₁
    obtain ⟨ht', hfollows', -⟩ := hfollows.takes ht hhorizon hkeeps ⟨n, hr₁⟩ htakes
    exact ⟨ht', hfollows'⟩

/-- The trails of a search that goes on have later and later addresses. -/
theorem address_trailAt_lt (hhorizon : 0 < p.horizon) (hkeeps : p.KeepsAll) {m n : Nat}
    (h : p.advance n p.start = .running r) (hmn : m < n) :
    Trail.address (p.trailAt m) < Trail.address (p.trailAt n) := by
  induction n generalizing r with
  | zero => omega
  | succ n ih =>
    obtain ⟨r₁, hr₁, htakes⟩ := exists_takes_of_running h
    obtain ⟨ht, hfollows⟩ := follows_trailAt hhorizon hkeeps hr₁
    obtain ⟨-, -, hlt⟩ := hfollows.takes ht hhorizon hkeeps ⟨n, hr₁⟩ htakes
    rcases Nat.lt_succ_iff_lt_or_eq.1 hmn with hmn | rfl
    · exact List.lt_trans (ih hr₁ hmn) hlt
    · exact hlt

/-- A snapshot on a trail that is accepted has a candidate selected. -/
theorem OnTrail.lt_of_accepted (ht : p.OnTrail ((s, i) :: t))
    (h : p.attempt (s.selecting i) = .ok .accepted) : i < s.top.untried.length := by
  obtain ⟨-, haccepts⟩ := attempt_accepted_iff.1 h
  obtain ⟨base, hbelow, -⟩ := accepts_iff.1 haccepts
  cases ht with
  | root => cases hbelow
  | child _ _ hi => exact hi

/-- A reachable search is on a trail. -/
theorem Reachable.exists_trail (hr : p.Reachable r) (hhorizon : 0 < p.horizon)
    (hkeeps : p.KeepsAll) :
    ∃ s i t, p.OnTrail ((s, i) :: t) ∧ Follows ((s, i) :: t) r ∧ s.selecting i = r.current := by
  obtain ⟨n, hn⟩ := hr
  obtain ⟨ht, hfollows⟩ := follows_trailAt hhorizon hkeeps hn
  obtain ⟨s, i, t, htrail⟩ := ht.exists_cons
  rw [htrail] at ht hfollows
  exact ⟨s, i, t, ht, hfollows, by simpa using hfollows.current⟩

/-- A search that stops with a tree has found the first accepting leaf. -/
theorem visits_of_acceptance (hhorizon : 0 < p.horizon) (hkeeps : p.KeepsAll) (hr : p.Reachable r)
    (haccepted : p.attempt r.current = .ok .accepted) :
    p.Visits p.root 0 (some r.current.forest) := by
  obtain ⟨s, i, t, ht, -, hcurrent⟩ := hr.exists_trail hhorizon hkeeps
  rw [← hcurrent] at haccepted ⊢
  have hi := ht.lt_of_accepted haccepted
  exact ht.visits (.leaf (branch_leaf_iff.2 ⟨hi, haccepted, rfl⟩))

/-- A search that stops because nothing is left has exhausted the choice tree. -/
theorem exhausted_of_rejection (hhorizon : 0 < p.horizon) (hkeeps : p.KeepsAll)
    (hr : p.Reachable r) {event : Option Event} (hstuck : p.attempt r.current = .ok (.stuck event))
    (hretry : r.saved.retry = none) : p.Exhausted p.root := by
  obtain ⟨s, i, t, ht, hfollows, hcurrent⟩ := hr.exists_trail hhorizon hkeeps
  have hbranch : p.branch s i = none := branch_eq_none_of_stuck (hcurrent ▸ hstuck)
  have hmap := Trail.retry_eq hfollows.saved
  rw [hretry, Option.map_none] at hmap
  have hnil : Trail.retreat ((s, i) :: t) = [] := by simpa using hmap.symm
  rcases ht.retreat (by simp [Spent, hbranch]) with hon | ⟨-, hexhausted⟩
  · rw [hnil] at hon
    cases hon
  · exact hexhausted

/-- The search ends with its next step or takes it along its trail. -/
theorem Follows.step (hfollows : Follows t r) (ht : p.OnTrail t) (hhorizon : 0 < p.horizon)
    (hkeeps : p.KeepsAll) (hr : p.Reachable r) :
    (∃ n o, p.advance n r = .ended o) ∨
      ∃ r', p.advance 1 r = .running r' ∧ p.Takes r r' ∧ p.Reachable r' ∧
        p.OnTrail (p.forward t) ∧ Follows (p.forward t) r' := by
  rcases p.step_cases r with ⟨r', hstep, htakes⟩ | ⟨o, hstep, -⟩
  · obtain ⟨ht', hfollows', -⟩ := hfollows.takes ht hhorizon hkeeps hr htakes
    refine .inr ⟨r', ?_, htakes, hr.step hstep, ht', hfollows'⟩
    simp [advance, hstep]
  · exact .inl ⟨1, o, by simp [advance, hstep]⟩

/-- The search is on the trail that another one retreats to. -/
structure Resumes (p : Problem) (t : Trail) (r : Run) : Prop where
  reachable : p.Reachable r
  onTrail : p.OnTrail (Trail.retreat t)
  follows : Follows (Trail.retreat t) r

/-- The search comes to an end, or it finds nothing and goes on with the given trail. -/
def Settles (p : Problem) (result : Option Forest) (t : Trail) (r : Run) : Prop :=
  (∃ n o, p.advance n r = .ended o) ∨
    ∃ n r', p.advance n r = .running r' ∧ result = none ∧ p.Resumes t r'

/-- What steps lead to settles the search from which they start. -/
theorem Settles.of_running {result : Option Forest} {m : Nat} (h : p.Settles result t r')
    (hm : p.advance m r = .running r') : p.Settles result t r := by
  rcases h with ⟨n, o, hn⟩ | ⟨n, r₁, hn, hresumes⟩
  · exact .inl ⟨m + n, o, by rw [advance_add, hm]; exact hn⟩
  · exact .inr ⟨m + n, r₁, by rw [advance_add, hm]; exact hn, hresumes⟩

/-- A search that has left one candidate behind goes on with the next one of the same node, or, if
this was the last, leaves the node behind. -/
theorem Resumes.settles {result : Option Forest} (h : p.Resumes ((s, i) :: t) r)
    (hrest : p.Visits s (i + 1) result)
    (hnext : i + 1 < s.top.untried.length → p.OnTrail ((s, i + 1) :: t) →
      Follows ((s, i + 1) :: t) r → p.Settles result t r) : p.Settles result t r := by
  obtain ⟨hreach, ht, hfollows⟩ := h
  unfold Trail.retreat at ht hfollows
  split at ht
  next hmore =>
    rw [if_pos hmore] at hfollows
    exact hnext hmore ht hfollows
  next hlast =>
    rw [if_neg hlast] at hfollows
    have hnone : result = none := hrest.unique (.done (Nat.le_of_not_lt hlast))
    exact .inr ⟨0, r, rfl, hnone, hreach, ht, hfollows⟩

theorem Takes.not_accepted (h : p.Takes r r') : p.attempt r.current ≠ .ok .accepted := by
  cases h with
  | move hmoves =>
    obtain ⟨event, hattempt⟩ := hmoves.attempt
    simp [hattempt]
  | nextCandidate hstuck => simp [hstuck]
  | backtrack hstuck => simp [hstuck]

/-- While a traversal comes to an end behind a trail, the search ends or, if the traversal finds
nothing, leaves this part of the choice tree behind. -/
theorem Visits.settles {result : Option Forest} (h : p.Visits s i result)
    (hhorizon : 0 < p.horizon) (hkeeps : p.KeepsAll) (hr : p.Reachable r)
    (hi : i < s.top.untried.length) (ht : p.OnTrail ((s, i) :: t))
    (hfollows : Follows ((s, i) :: t) r) : p.Settles result t r := by
  induction h generalizing t r with
  | done hlast => omega
  | @leaf s i _ hbranch =>
    obtain ⟨-, haccepted, -⟩ := branch_leaf_iff.1 hbranch
    have hcurrent : s.selecting i = r.current := by simpa using hfollows.current
    rcases hfollows.step ht hhorizon hkeeps hr with hended | ⟨r', -, htakes, -⟩
    · exact .inl hended
    · exact absurd (hcurrent ▸ haccepted) htakes.not_accepted
  | found hbranch _ ih =>
    obtain ⟨-, hmoves⟩ := branch_node_iff.1 hbranch
    rcases hfollows.step ht hhorizon hkeeps hr with hended | ⟨r', hr', -, hreach, ht', hfollows'⟩
    · exact .inl hended
    · simp only [forward, hbranch] at ht' hfollows'
      have hchild := ih hreach (List.length_pos_iff.2 hmoves.untried_ne_nil) ht' hfollows'
      rcases hchild.of_running hr' with hended | ⟨_, _, _, hnone, _⟩
      · exact .inl hended
      · cases hnone
  | back hbranch _ hrest ihchild ihrest =>
    obtain ⟨-, hmoves⟩ := branch_node_iff.1 hbranch
    rcases hfollows.step ht hhorizon hkeeps hr with hended | ⟨r', hr', -, hreach, ht', hfollows'⟩
    · exact .inl hended
    · simp only [forward, hbranch] at ht' hfollows'
      have hchild := ihchild hreach (List.length_pos_iff.2 hmoves.untried_ne_nil) ht' hfollows'
      rcases hchild.of_running hr' with hended | ⟨n, r₁, hn, -, hresumes⟩
      · exact .inl hended
      · exact (hresumes.settles hrest (ihrest hresumes.reachable)).of_running hn
  | skip hmore hbranch hrest ih =>
    rcases hfollows.step ht hhorizon hkeeps hr with hended | ⟨r', hr', -, hreach, ht', hfollows'⟩
    · exact .inl hended
    · simp only [forward, hbranch] at ht' hfollows'
      have hresumes : p.Resumes _ r' := ⟨hreach, ht', hfollows'⟩
      exact (hresumes.settles hrest (ih hreach)).of_running hr'

/-- A search whose traversal comes to an end comes to an end itself. -/
theorem exists_ended_of_visits {result : Option Forest} (h : p.Visits p.root 0 result)
    (hhorizon : 0 < p.horizon) (hkeeps : p.KeepsAll) :
    ∃ n o, p.advance n p.start = .ended o := by
  have hr : p.Reachable p.start := ⟨0, rfl⟩
  have hfollows := follows_start hhorizon
  by_cases hcandidates : 0 < p.root.top.untried.length
  · rcases h.settles hhorizon hkeeps hr hcandidates p.onTrail_start hfollows with hended |
      ⟨_, _, _, _, hresumes⟩
    · exact hended
    · cases hresumes.onTrail
  · rcases hfollows.step p.onTrail_start hhorizon hkeeps hr with hended | ⟨_, _, _, _, ht, _⟩
    · exact hended
    · have hbranch : p.branch p.root 0 = none := if_neg hcandidates
      have hlast : ¬0 + 1 < p.root.top.untried.length := by omega
      simp only [forward, hbranch, Trail.retreat, if_neg hlast] at ht
      cases ht

/-- How a search that has ended is told by its traversal. -/
theorem ends_cases (htable : p.table.WellFormed) (hhorizon : 0 < p.horizon) (hkeeps : p.KeepsAll)
    {n : Nat} (h : p.advance n p.start = .ended o) :
    (∃ f, o = .ok f ∧ p.Visits p.root 0 (some f)) ∨
      (∃ e, o = .error e ∧ e.isRejection = true) ∧ p.Exhausted p.root := by
  obtain ⟨r, hr, hstops⟩ := exists_stops_of_ended h
  cases hstops with
  | failure hfailure => exact absurd hfailure (hr.sound.1.attempt_ne_error htable)
  | acceptance haccepted =>
    exact .inl ⟨_, rfl, visits_of_acceptance hhorizon hkeeps hr haccepted⟩
  | rejection hstuck _ hretry =>
    exact .inr ⟨⟨_, rfl, isRejection_rejection p _⟩,
      exhausted_of_rejection hhorizon hkeeps hr hstuck hretry⟩

/-- A search accepts what the traversal finds. -/
theorem ends_ok_iff (htable : p.table.WellFormed) (hhorizon : 0 < p.horizon) (hkeeps : p.KeepsAll)
    (f : Forest) : p.Ends none (.ok f) ↔ p.Visits p.root 0 (some f) := by
  constructor
  · rintro ⟨n, hn⟩
    rcases ends_cases htable hhorizon hkeeps hn with ⟨f', hf, hvisits⟩ | ⟨⟨e, he, -⟩, -⟩
    · cases hf
      exact hvisits
    · cases he
  · intro hvisits
    obtain ⟨n, o, hn⟩ := exists_ended_of_visits hvisits hhorizon hkeeps
    rcases ends_cases htable hhorizon hkeeps hn with ⟨f', rfl, hvisits'⟩ | ⟨-, hexhausted⟩
    · cases hvisits.unique hvisits'
      exact ⟨n, hn⟩
    · cases hvisits.unique (hexhausted.visits 0)

/-- A search rejects when the choice tree is exhausted. -/
theorem ends_rejection_iff (htable : p.table.WellFormed) (hhorizon : 0 < p.horizon)
    (hkeeps : p.KeepsAll) :
    (∃ e, e.isRejection = true ∧ p.Ends none (.error e)) ↔ p.Exhausted p.root := by
  constructor
  · rintro ⟨e, -, n, hn⟩
    rcases ends_cases htable hhorizon hkeeps hn with ⟨f, hf, -⟩ | ⟨-, hexhausted⟩
    · cases hf
    · exact hexhausted
  · intro hexhausted
    obtain ⟨n, o, hn⟩ := exists_ended_of_visits (hexhausted.visits 0) hhorizon hkeeps
    rcases ends_cases htable hhorizon hkeeps hn with ⟨f, rfl, hvisits⟩ | ⟨⟨e, rfl, he⟩, -⟩
    · cases hvisits.unique (hexhausted.visits 0)
    · exact ⟨e, he, n, hn⟩

/-- **The search is a plain depth-first search.** Over a table that keeps its promises, and as long
as no checkpoint gives way, a search without a step limit accepts a forest exactly when it is that of
the first accepting leaf in the depth-first traversal of the choice tree, and rejects exactly when
the choice tree is finite and has no accepting leaf. Every step tries a candidate of a node of the
choice tree, and these have later and later addresses, so that no candidate is tried twice. -/
theorem depth_first (htable : p.table.WellFormed) (hhorizon : 1 ≤ p.horizon)
    (hkeeps : p.KeepsAll) :
    (∀ f, p.Ends none (.ok f) ↔ p.Visits p.root 0 (some f)) ∧
    ((∃ e, e.isRejection = true ∧ p.Ends none (.error e)) ↔
      p.FiniteTree p.root ∧ p.LeafFree p.root) ∧
    ∃ address : Nat → List Nat, ∀ n r, p.advance n p.start = .running r →
      (∃ path i s, address n = path ++ [i] ∧ p.nodeAt p.root path = some s ∧
        s.selecting i = r.current) ∧
      ∀ m, m < n → address m < address n := by
  refine ⟨ends_ok_iff htable hhorizon hkeeps, ?_, fun n => Trail.address (p.trailAt n), ?_⟩
  · rw [ends_rejection_iff htable hhorizon hkeeps, exhausted_iff]
  · intro n r hn
    refine ⟨?_, fun m hmn => address_trailAt_lt hhorizon hkeeps hn hmn⟩
    obtain ⟨ht, hfollows⟩ := follows_trailAt hhorizon hkeeps hn
    obtain ⟨s, i, t, htrail⟩ := ht.exists_cons
    rw [htrail] at ht hfollows
    refine ⟨Trail.address t, i, s, ?_, ht.nodeAt, by simpa using hfollows.current⟩
    show Trail.address (p.trailAt n) = _
    rw [htrail, Trail.address_cons]

end Library

/-- The search that has to return from a dead end does what the depth-first traversal does. -/
theorem depth_first_detour :
    detour.table.WellFormed ∧ 1 ≤ detour.horizon ∧ detour.KeepsAll ∧
      detour.Ends none (.ok ⟨[.parent "S" [.leaf "x"]]⟩) ∧
      detour.Visits detour.root 0 (some ⟨[.parent "S" [.leaf "x"]]⟩) :=
  have htable : detour.table.WellFormed := Table.wellFormed_ofRows_iff.2 (by decide)
  have hended : detour.advance 5 detour.start = .ended (.ok ⟨[.parent "S" [.leaf "x"]]⟩) := rfl
  have hkeeps : detour.KeepsAll := keepsAll_of_ended hended (by decide)
  ⟨htable, by decide, hkeeps, ⟨5, hended⟩,
    ((depth_first htable (by decide) hkeeps).1 _).1 ⟨5, hended⟩⟩

end BranchLR.Problem
