import BranchLR.Proofs.Search.Moves

/-!
# Searches from start to end

The steps of a search that goes on and of one that stops, the searches that can be reached, and the
outcomes. Two induction principles carry everything that follows: what every step preserves holds of
every reachable search, and what every move and every advance preserves holds of every snapshot that
a reachable search works on or has saved.
-/

namespace BranchLR

variable [RegexLibrary]

/-- Whether a failure says that no branch of the search is left. -/
def ParseFailure.isRejection : ParseFailure → Bool
  | rejected _ _ => true
  | unexpectedEnd _ => true
  | _ => false

namespace Problem

variable {p : Problem} {r r' : Run} {s next : Snapshot} {o : Outcome}

/-- A step after which the search goes on: a move, the next candidate in place, or the newest
checkpoint that has a candidate left. -/
inductive Takes (p : Problem) (r : Run) : Run → Prop
  | move {next : Snapshot} (hmoves : p.Moves r.current next) :
      Takes p r ⟨next, if next.top.isChoice then r.saved.record p.horizon next else r.saved,
        r.steps + 1, lookedAt r.current r.furthest⟩
  | nextCandidate {event : Option Event} {next : Snapshot}
      (hstuck : p.attempt r.current = .ok (.stuck event)) (hhorizon : p.horizon = 0)
      (hadvance : r.current.advance? = some next) :
      Takes p r ⟨next, r.saved, r.steps + 1, lookedAt r.current r.furthest⟩
  | backtrack {event : Option Event} {next : Snapshot} {saved : Checkpoints}
      (hstuck : p.attempt r.current = .ok (.stuck event))
      (hlast : p.horizon = 0 → r.current.advance? = none)
      (hretry : r.saved.retry = some (next, saved)) :
      Takes p r ⟨next, saved, r.steps + 1, lookedAt r.current r.furthest⟩

/-- A step with which the search ends: in a broken promise of the table, in a tree, or because
nothing is left to try. -/
inductive Stops (p : Problem) (r : Run) : Outcome → Prop
  | failure {e : ParseFailure} (hfailure : p.attempt r.current = .error e) : Stops p r (.error e)
  | acceptance (haccepted : p.attempt r.current = .ok .accepted) : Stops p r (.ok r.current.forest)
  | rejection {event : Option Event} (hstuck : p.attempt r.current = .ok (.stuck event))
      (hlast : p.horizon = 0 → r.current.advance? = none) (hretry : r.saved.retry = none) :
      Stops p r (.error (p.rejection (lookedAt r.current r.furthest)))

/-- A search in which no branch is left ends in a rejection. -/
theorem isRejection_rejection (p : Problem) (furthest : Nat) :
    (p.rejection furthest).isRejection = true := by
  unfold Problem.rejection
  split <;> rfl

/-- What a step amounts to when its action did not apply. -/
theorem resume_cases (p : Problem) (r : Run) :
    (∃ next, p.horizon = 0 ∧ r.current.advance? = some next ∧
      (p.resume r).2 = .running { r with current := next }) ∨
    (p.horizon = 0 → r.current.advance? = none) ∧
      ((∃ next saved, r.saved.retry = some (next, saved) ∧
        (p.resume r).2 = .running { r with current := next, saved := saved }) ∨
      r.saved.retry = none ∧ (p.resume r).2 = .ended (.error (p.rejection r.furthest))) := by
  by_cases hnext : p.horizon = 0 ∧ r.current.advance? ≠ none
  · obtain ⟨next, hadvance⟩ := Option.ne_none_iff_exists'.1 hnext.2
    exact .inl ⟨next, hnext.1, hadvance, by simp [resume, hnext.1, hadvance]⟩
  · have hlast : p.horizon = 0 → r.current.advance? = none := fun hhorizon =>
      Decidable.not_not.1 fun hadvance => hnext ⟨hhorizon, hadvance⟩
    have hnone : (if p.horizon = 0 then r.current.advance? else none) = none := by
      split
      next hhorizon => exact hlast hhorizon
      next => rfl
    refine .inr ⟨hlast, ?_⟩
    cases hretry : r.saved.retry with
    | none => exact .inr ⟨rfl, by simp [resume, hnone, hretry]⟩
    | some found => exact .inl ⟨found.1, found.2, rfl, by simp [resume, hnone, hretry]⟩

/-- Every step goes on or stops in one of the listed ways. -/
theorem step_cases (p : Problem) (r : Run) :
    (∃ r', (p.step r).2 = .running r' ∧ p.Takes r r') ∨
      ∃ o, (p.step r).2 = .ended o ∧ p.Stops r o := by
  cases hattempt : p.attempt r.current with
  | error e => exact .inr ⟨.error e, by simp [step, hattempt], .failure hattempt⟩
  | ok attempt =>
    cases attempt with
    | accepted => exact .inr ⟨.ok r.current.forest, by simp [step, hattempt], .acceptance hattempt⟩
    | moved event next =>
      refine .inl ⟨_, ?_, .move (attempt_moved_iff.1 ⟨event, hattempt⟩)⟩
      simp only [step, hattempt]
      split <;> rfl
    | stuck event =>
      let r₁ : Run := { r with steps := r.steps + 1, furthest := lookedAt r.current r.furthest }
      have hstep : (p.step r).2 = (p.resume r₁).2 := by simp [step, hattempt, r₁]
      rcases p.resume_cases r₁ with ⟨next, hhorizon, hadvance, h⟩ |
        ⟨hlast, ⟨next, saved, hretry, h⟩ | ⟨hretry, h⟩⟩
      · exact .inl ⟨_, hstep.trans h, .nextCandidate hattempt hhorizon hadvance⟩
      · exact .inl ⟨_, hstep.trans h, .backtrack hattempt hlast hretry⟩
      · exact .inr ⟨_, hstep.trans h, .rejection hattempt hlast hretry⟩

theorem takes_of_step (h : (p.step r).2 = .running r') : p.Takes r r' := by
  rcases p.step_cases r with ⟨r₁, hstep, htakes⟩ | ⟨o, hstep, -⟩
  · cases hstep.symm.trans h
    exact htakes
  · cases hstep.symm.trans h

theorem stops_of_step (h : (p.step r).2 = .ended o) : p.Stops r o := by
  rcases p.step_cases r with ⟨r₁, hstep, -⟩ | ⟨o₁, hstep, hstops⟩
  · cases hstep.symm.trans h
  · cases hstep.symm.trans h
    exact hstops

/-! ### Reachable searches -/

/-- The snapshot that every search starts from. -/
def root (p : Problem) : Snapshot := ⟨⟨.bottom, [], p.table.initial, 0⟩, [], {}⟩

/-- A search that has come to the given state. -/
def Reachable (p : Problem) (r : Run) : Prop := ∃ n, p.advance n p.start = .running r

/-- How the search ends: under a step limit, or without one if it ends by itself. -/
def Ends (p : Problem) : Option Nat → Outcome → Prop
  | some limit, o => p.solve limit = o
  | none, o => ∃ n, p.advance n p.start = .ended o

/-- More steps continue where fewer steps have led. -/
theorem advance_add (p : Problem) (m n : Nat) (r : Run) :
    p.advance (m + n) r =
      match p.advance m r with
      | .running r' => p.advance n r'
      | .ended o => .ended o := by
  induction m generalizing r with
  | zero => simp [advance]
  | succ m ih =>
    rw [Nat.add_right_comm]
    simp only [advance]
    split
    next r' h => exact ih r'
    next o h => rfl

theorem advance_succ_of_running {n : Nat} (h : p.advance n r = .running r') :
    p.advance (n + 1) r = (p.step r').2 := by
  rw [advance_add, h]
  simp only [advance]
  split <;> simp_all

/-- The last of several steps is one that the search takes. -/
theorem exists_takes_of_running {n : Nat} (h : p.advance (n + 1) r = .running r') :
    ∃ r₁, p.advance n r = .running r₁ ∧ p.Takes r₁ r' := by
  cases hn : p.advance n r with
  | ended o =>
    rw [advance_add, hn] at h
    cases h
  | running r₁ =>
    rw [advance_succ_of_running hn] at h
    exact ⟨r₁, rfl, takes_of_step h⟩

/-- What a step leads to is reachable. -/
theorem Reachable.step (hr : p.Reachable r) (h : (p.step r).2 = .running r') : p.Reachable r' := by
  obtain ⟨n, hn⟩ := hr
  exact ⟨n + 1, by rw [advance_succ_of_running hn, h]⟩

/-- What the start satisfies and every step preserves holds of every reachable search. -/
theorem Reachable.induction {P : Run → Prop} (hstart : P p.start)
    (hstep : ∀ r r', p.Reachable r → P r → p.Takes r r' → P r') (h : p.Reachable r) : P r := by
  obtain ⟨n, hn⟩ := h
  induction n generalizing r with
  | zero =>
    cases hn
    exact hstart
  | succ n ih =>
    obtain ⟨r₁, hr₁, htakes⟩ := exists_takes_of_running hn
    exact hstep r₁ r ⟨n, hr₁⟩ (ih hr₁) htakes

/-- What the bottom of the stack satisfies, and every move and every advance preserves, holds of the
snapshot that a reachable search works on and of every snapshot it has saved. -/
theorem Reachable.snapshots {I : Snapshot → Prop} (hroot : I p.root)
    (hmoves : ∀ s next, I s → p.Moves s next → I next)
    (hadvance : ∀ s next, I s → s.advance? = some next → I next) (h : p.Reachable r) :
    I r.current ∧ ∀ s ∈ r.saved.newestFirst, I s := by
  refine h.induction (P := fun r => I r.current ∧ ∀ s ∈ r.saved.newestFirst, I s) ?_ ?_
  · refine ⟨hroot, fun s hs => ?_⟩
    simp only [start] at hs
    split at hs
    · rw [Checkpoints.newestFirst_record] at hs
      rcases List.mem_cons.1 (List.mem_of_mem_take hs) with rfl | hs
      · exact hroot
      · cases hs
    · cases hs
  · rintro r r' - ⟨hcurrent, hsaved⟩ htakes
    cases htakes with
    | @move next hmove =>
      have hnext := hmoves _ _ hcurrent hmove
      refine ⟨hnext, fun s hs => ?_⟩
      dsimp only at hs
      split at hs
      · rw [Checkpoints.newestFirst_record] at hs
        rcases List.mem_cons.1 (List.mem_of_mem_take hs) with rfl | hs
        · exact hnext
        · exact hsaved s hs
      · exact hsaved s hs
    | nextCandidate _ _ hadv => exact ⟨hadvance _ _ hcurrent hadv, hsaved⟩
    | backtrack _ _ hretry =>
      obtain ⟨dropped, s, rest, hsplit, -, hs, hnewest⟩ := Checkpoints.retryFrom_eq_some hretry
      have hnext := hadvance _ _ (hsaved s (by simp [hsplit])) hs
      refine ⟨hnext, fun t ht => ?_⟩
      rw [hnewest] at ht
      rcases List.mem_cons.1 ht with rfl | ht
      · exact hnext
      · exact hsaved t (by simp [hsplit, ht])

/-- A search that ends by itself stops at a search it has reached. -/
theorem exists_stops_of_ended {n : Nat} (h : p.advance n p.start = .ended o) :
    ∃ r, p.Reachable r ∧ p.Stops r o := by
  induction n with
  | zero => cases h
  | succ n ih =>
    cases hr : p.advance n p.start with
    | ended o₁ =>
      rw [advance_add, hr] at h
      cases h
      exact ih hr
    | running r =>
      rw [advance_succ_of_running hr] at h
      exact ⟨r, ⟨n, hr⟩, stops_of_step h⟩

/-- A search goes on only before it ends. -/
theorem lt_of_ended {k n : Nat} (hk : p.advance k r = .running r') (hn : p.advance n r = .ended o) :
    k < n := by
  refine Nat.lt_of_not_le fun hle => ?_
  obtain ⟨m, rfl⟩ := Nat.exists_eq_add_of_le hle
  rw [advance_add, hn] at hk
  cases hk

/-- A search gives up at its step limit or ends by itself before. -/
theorem Ends.exists_ended {limit : Option Nat} (h : p.Ends limit o) :
    (∃ n, limit = some n ∧ o = .error (.stepLimit n)) ∨
      ∃ n, (∀ m ∈ limit, n ≤ m) ∧ p.advance n p.start = .ended o := by
  cases limit with
  | none =>
    obtain ⟨n, hn⟩ := h
    exact .inr ⟨n, nofun, hn⟩
  | some n =>
    simp only [Ends, solve] at h
    split at h
    next o₁ hn =>
      cases h
      exact .inr ⟨n, by simp, hn⟩
    next => exact .inl ⟨n, rfl, h.symm⟩

/-- Under a step limit a search gives up or stops at a search it has reached. -/
theorem Ends.cases {limit : Option Nat} (h : p.Ends limit o) :
    (∃ n, limit = some n ∧ o = .error (.stepLimit n)) ∨ ∃ r, p.Reachable r ∧ p.Stops r o := by
  rcases h.exists_ended with hlimit | ⟨n, -, hn⟩
  · exact .inl hlimit
  · exact .inr (exists_stops_of_ended hn)

end Problem

end BranchLR
