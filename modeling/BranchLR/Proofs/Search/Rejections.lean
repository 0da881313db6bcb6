import BranchLR.Proofs.Search.Safety

/-!
# How searches end

A search gives up at its step limit, or it stops with the last of its steps. When it stops because
nothing is left to try, it names the furthest place at which any branch has looked. This place never
moves back while the search goes on, and it never lies behind the end of the input. A promise that
the table breaks is never reported as a rejection, so every rejection comes from a search that has
nothing left.
-/

namespace BranchLR

variable [RegexLibrary]

/-- A rule that cannot be asked is reported. -/
theorem Rule.eq_unexpandedGuard {g : Grammar} {rule : Rule} {symbol : Symbol} {e : ParseFailure}
    (h : rule.check g symbol = .error e) : e = .unexpandedGuard rule := by
  unfold Rule.check at h
  split at h
  · cases h
  · cases h
    rfl

theorem Row.exists_unexpandedGuard_of_groups {g : Grammar} {symbol : Symbol} {e : ParseFailure}
    {entries : List (Rule × List Action)} (h : Row.groups g symbol entries = .error e) :
    ∃ guard, e = .unexpandedGuard guard := by
  induction entries with
  | nil => cases h
  | cons entry rest ih =>
    obtain ⟨guard, actions⟩ := entry
    unfold Row.groups at h
    cases hcheck : guard.check g symbol with
    | error e' =>
      have heq : e' = e := by simpa [hcheck, bind, Except.bind] using h
      exact ⟨guard, heq ▸ Rule.eq_unexpandedGuard hcheck⟩
    | ok here =>
      cases hrest : Row.groups g symbol rest with
      | error e' =>
        have heq : e' = e := by simpa [hcheck, hrest, bind, Except.bind] using h
        exact ih (heq ▸ hrest)
      | ok others => simp [hcheck, hrest, bind, Except.bind] at h

/-- Candidates are missing only if a guard cannot be asked. -/
theorem Row.exists_unexpandedGuard {g : Grammar} {row : Row} {symbol : Symbol} {e : ParseFailure}
    (h : row.candidates g symbol = .error e) : ∃ guard, e = .unexpandedGuard guard := by
  unfold Row.candidates at h
  cases hgroups : Row.groups g symbol row.entries with
  | error e' =>
    have heq : e' = e := by simpa [hgroups, bind, Except.bind] using h
    exact heq ▸ Row.exists_unexpandedGuard_of_groups hgroups
  | ok lists => simp [hgroups, bind, Except.bind] at h

/-- A production cannot be compared with the stack only if one of its rules cannot be asked. -/
theorem exists_unexpandedGuard_of_covers {g : Grammar} {rules : List Rule} {stack : List Entry}
    {e : ParseFailure} (h : covers g rules stack = .error e) :
    ∃ guard, e = .unexpandedGuard guard := by
  induction rules generalizing stack with
  | nil => simp [covers] at h
  | cons rule rules ih =>
    cases stack with
    | nil => simp [covers] at h
    | cons entry stack =>
      simp only [covers, bind] at h
      cases hcheck : rule.check g entry.symbol with
      | error e' =>
        have heq : e' = e := by simpa [hcheck, Except.bind] using h
        exact ⟨rule, heq ▸ Rule.eq_unexpandedGuard hcheck⟩
      | ok here =>
        simp only [hcheck, Except.bind] at h
        split at h
        · exact ih h
        · cases h

namespace Problem

variable {p : Problem} {r r' : Run} {o : Outcome} {n : Nat} {limit : Option Nat}

/-- An attempt breaks off only at a row that is missing or at a guard that cannot be asked; the
forest is never too short. -/
theorem Sound.missingRow_or_unexpandedGuard {s : Snapshot} {e : ParseFailure} (h : p.Sound s)
    (hattempt : p.attempt s = .error e) :
    (∃ row, e = .missingRow row) ∨ ∃ guard, e = .unexpandedGuard guard := by
  have hexplained := p.attempt_explained s
  rw [hattempt] at hexplained
  cases hexplained with
  | broken hbreaks =>
    cases hbreaks with
    | shiftRow => exact .inl ⟨_, rfl⟩
    | shiftGuard _ _ hactions => exact .inr (Row.exists_unexpandedGuard hactions)
    | rule _ hcovers => exact .inr (exists_unexpandedGuard_of_covers hcovers)
    | reduceRow => exact .inl ⟨_, rfl⟩
    | reduceGuard _ _ hactions => exact .inr (Row.exists_unexpandedGuard hactions)
    | roots _ hbase _ hforest => exact absurd hforest (h.reduce?_ne_none hbase)

/-- A promise that the table breaks is reported as such and not as a rejection. -/
theorem Sound.isRejection_eq_false {s : Snapshot} {e : ParseFailure} (h : p.Sound s)
    (hattempt : p.attempt s = .error e) : e.isRejection = false := by
  rcases h.missingRow_or_unexpandedGuard hattempt with ⟨row, rfl⟩ | ⟨guard, rfl⟩
  · rfl
  · rfl

/-! ### The last step -/

/-- Only a search without a horizon moves on in place. -/
theorem inPlace_eq_none {s : Snapshot} (hlast : p.horizon = 0 → s.advance? = none) :
    (if p.horizon = 0 then s.advance? else none) = none := by
  split
  next hhorizon => exact hlast hhorizon
  next => rfl

/-- A step that the search can take is the one it takes. -/
theorem Takes.step_eq (h : p.Takes r r') : (p.step r).2 = .running r' := by
  cases h with
  | move hmoves =>
    obtain ⟨event, hattempt⟩ := hmoves.attempt
    simp only [step, hattempt]
    split <;> rfl
  | nextCandidate hstuck hhorizon hadvance =>
    simp [step, resume, hstuck, hhorizon, hadvance]
  | backtrack hstuck hlast hretry =>
    simp [step, resume, hstuck, inPlace_eq_none hlast, hretry]

/-- A step with which the search can end ends it. -/
theorem Stops.step_eq (h : p.Stops r o) : (p.step r).2 = .ended o := by
  cases h with
  | failure hfailure => simp [step, hfailure]
  | acceptance haccepted => simp [step, haccepted]
  | rejection hstuck hlast hretry =>
    simp [step, resume, hstuck, inPlace_eq_none hlast, hretry]

/-- A search that ends by itself took its last step from one that was going on. -/
theorem exists_last_step (h : p.advance n r = .ended o) :
    ∃ k r', k < n ∧ p.advance k r = .running r' ∧ (p.step r').2 = .ended o := by
  induction n with
  | zero => cases h
  | succ n ih =>
    cases hr : p.advance n r with
    | ended o₁ =>
      rw [advance_add, hr] at h
      cases h
      obtain ⟨k, r', hk, hrest⟩ := ih hr
      exact ⟨k, r', Nat.lt_succ_of_lt hk, hrest⟩
    | running r₁ =>
      rw [advance_succ_of_running hr] at h
      exact ⟨n, r₁, Nat.lt_succ_self n, hr, h⟩

/-- An end is reached again with more steps. -/
theorem advance_eq_ended_of_step {k : Nat} (hk : k < n) (hr : p.advance k r = .running r')
    (hstep : (p.step r').2 = .ended o) : p.advance n r = .ended o := by
  obtain ⟨m, rfl⟩ : ∃ m, n = (k + 1) + m := ⟨n - (k + 1), by omega⟩
  rw [advance_add, advance_succ_of_running hr, hstep]

/-- Under its step limit a search gives up, or it stops before. -/
theorem ends_iff : p.Ends limit o ↔
    (∃ n r, limit = some n ∧ o = .error (.stepLimit n) ∧ p.advance n p.start = .running r) ∨
      ∃ k r, (∀ m ∈ limit, k < m) ∧ p.advance k p.start = .running r ∧ p.Stops r o := by
  constructor
  · intro h
    cases limit with
    | none =>
      obtain ⟨n, hn⟩ := h
      obtain ⟨k, r, -, hr, hstep⟩ := exists_last_step hn
      exact .inr ⟨k, r, nofun, hr, stops_of_step hstep⟩
    | some n =>
      simp only [Ends, solve] at h
      split at h
      next o₁ hn =>
        cases h
        obtain ⟨k, r, hk, hr, hstep⟩ := exists_last_step hn
        exact .inr ⟨k, r, by simpa using hk, hr, stops_of_step hstep⟩
      next r hr => exact .inl ⟨n, r, rfl, h.symm, hr⟩
  · rintro (⟨n, r, rfl, rfl, hr⟩ | ⟨k, r, hk, hr, hstops⟩)
    · simp [Ends, solve, hr]
    · cases limit with
      | none => exact ⟨k + 1, advance_eq_ended_of_step (Nat.lt_succ_self k) hr hstops.step_eq⟩
      | some n =>
        have hn := advance_eq_ended_of_step (hk n rfl) hr hstops.step_eq
        simp [Ends, solve, hn]

/-! ### The furthest place -/

/-- A branch that is tried is never looked at behind the furthest place. -/
theorem le_lookedAt (s : Snapshot) (furthest : Nat) : furthest ≤ lookedAt s furthest := by
  unfold lookedAt
  split
  · exact Nat.le_refl furthest
  · exact Nat.le_max_left furthest s.top.place

/-- A step moves the furthest place as far as its action has looked. -/
theorem Takes.furthest_eq (h : p.Takes r r') : r'.furthest = lookedAt r.current r.furthest := by
  cases h with
  | move => rfl
  | nextCandidate => rfl
  | backtrack => rfl

/-- No branch looks behind the end of the input. -/
theorem Reachable.lookedAt_le (h : p.Reachable r) :
    lookedAt r.current r.furthest ≤ p.input.size := by
  have hplace : ∀ r, p.Reachable r → r.current.top.place ≤ p.input.size := by
    intro r hr
    exact hr.sound.1.represents.place_le
  have hlooked : ∀ r, p.Reachable r → r.furthest ≤ p.input.size →
      lookedAt r.current r.furthest ≤ p.input.size := by
    intro r hr hfurthest
    unfold lookedAt
    split
    · exact hfurthest
    · exact Nat.max_le.2 ⟨hfurthest, hplace r hr⟩
  have hfurthest : r.furthest ≤ p.input.size := by
    refine h.induction (P := fun r => r.furthest ≤ p.input.size) (Nat.zero_le _) ?_
    intro r r' hr hle htakes
    rw [htakes.furthest_eq]
    exact hlooked r hr hle
  exact hlooked r h hfurthest

/-- The furthest place never moves back. -/
theorem lookedAt_le_of_advance (h : p.advance n r = .running r') :
    lookedAt r.current r.furthest ≤ lookedAt r'.current r'.furthest := by
  induction n generalizing r' with
  | zero =>
    cases h
    exact Nat.le_refl _
  | succ n ih =>
    obtain ⟨r₁, hr₁, htakes⟩ := exists_takes_of_running h
    have hbefore := ih hr₁
    have hlooked := le_lookedAt r'.current r'.furthest
    rw [htakes.furthest_eq] at hlooked
    rw [htakes.furthest_eq]
    omega

/-! ### Rejections -/

/-- Nothing is left to try: the selected action does not apply, and there is no other candidate to
go on with. -/
structure OutOfBranches (p : Problem) (r : Run) : Prop where
  stuck : ∃ event, p.attempt r.current = .ok (.stuck event)
  last : p.horizon = 0 → r.current.advance? = none
  none_left : r.saved.retry = none

theorem OutOfBranches.stops (h : p.OutOfBranches r) :
    p.Stops r (.error (p.rejection (lookedAt r.current r.furthest))) := by
  obtain ⟨event, hstuck⟩ := h.stuck
  exact .rejection hstuck h.last h.none_left

/-- The search is rejected within its step limit, and the given place is the furthest at which any
of its branches has looked. -/
def RejectsAt (p : Problem) (limit : Option Nat) (place : Nat) : Prop :=
  ∃ n r, (∀ m ∈ limit, n < m) ∧ p.advance n p.start = .running r ∧ p.OutOfBranches r ∧
    place = lookedAt r.current r.furthest

/-- A search that is rejected is rejected at one place, inside the input or at its end. -/
theorem Ends.exists_rejectsAt {e : ParseFailure} (h : p.Ends limit (.error e))
    (he : e.isRejection = true) :
    ∃ place, p.RejectsAt limit place ∧ e = p.rejection place ∧ place ≤ p.input.size := by
  rcases ends_iff.1 h with ⟨n, r, -, hlimit, -⟩ | ⟨k, r, hk, hr, hstops⟩
  · cases hlimit
    cases he
  · have hreachable : p.Reachable r := ⟨k, hr⟩
    cases hstops with
    | failure hfailure =>
      have hfalse := hreachable.sound.1.isRejection_eq_false hfailure
      cases hfalse.symm.trans he
    | rejection hstuck hlast hretry =>
      exact ⟨_, ⟨k, r, hk, hr, ⟨⟨_, hstuck⟩, hlast, hretry⟩, rfl⟩, rfl, hreachable.lookedAt_le⟩

end Problem

end BranchLR
