import BranchLR.Proofs.Search.Rejections
import BranchLR.Proofs.Search.Soundness

/-!
# Step limits

A step limit decides when a search is given up and nothing else. The limit is looked at before a
step is taken, so a search that ends by itself with a step that the limit still allows ends in the
same way under every higher limit and without one. A search that is given up was still going on
when any lower limit would have been reached.
-/

namespace BranchLR.Problem

section Library

variable [RegexLibrary]

variable {p : Problem} {r r' : Run} {o o' : Outcome} {m n : Nat} {limit : Option Nat}

/-- What ends a reachable search by itself is never a lack of steps. -/
theorem Reachable.ne_stepLimit (hr : p.Reachable r) (hstops : p.Stops r o) (n : Nat) :
    o ≠ .error (.stepLimit n) := by
  intro ho
  cases hstops with
  | failure hfailure =>
    cases ho
    rcases hr.sound.1.missingRow_or_unexpandedGuard hfailure with ⟨row, heq⟩ | ⟨guard, heq⟩
    · cases heq
    · cases heq
  | acceptance => cases ho
  | rejection =>
    have hrejection := isRejection_rejection p (lookedAt r.current r.furthest)
    rw [Except.error.inj ho] at hrejection
    cases hrejection

/-- A search that goes on after some steps went on after fewer. -/
theorem exists_running_of_le (hle : m ≤ n) (h : p.advance n r = .running r') :
    ∃ r₁, p.advance m r = .running r₁ := by
  obtain ⟨k, rfl⟩ := Nat.exists_eq_add_of_le hle
  rw [advance_add] at h
  cases hm : p.advance m r with
  | running r₁ => exact ⟨r₁, rfl⟩
  | ended o =>
    rw [hm] at h
    cases h

/-- A search is given up exactly when it still goes on after as many steps as its limit allows, and
the failure names this limit. -/
theorem ends_stepLimit_iff : p.Ends (some n) (.error (.stepLimit m)) ↔
    m = n ∧ ∃ r, p.advance n p.start = .running r := by
  rw [ends_iff]
  constructor
  · rintro (⟨k, r, hk, heq, hr⟩ | ⟨k, r, -, hr, hstops⟩)
    · cases hk
      cases heq
      exact ⟨rfl, r, hr⟩
    · have hreachable : p.Reachable r := ⟨k, hr⟩
      exact absurd rfl (hreachable.ne_stepLimit hstops m)
  · rintro ⟨rfl, r, hr⟩
    exact .inl ⟨m, r, rfl, rfl, hr⟩

/-- A search ends in one way only. -/
theorem Ends.unique (h : p.Ends limit o) (h' : p.Ends limit o') : o = o' := by
  cases limit with
  | some n => exact Eq.trans (Eq.symm h) h'
  | none =>
    obtain ⟨m, hm⟩ := h
    obtain ⟨n, hn⟩ := h'
    obtain ⟨k, r, -, hr, hstep⟩ := exists_last_step hm
    have hlater := advance_eq_ended_of_step (lt_of_ended hr hn) hr hstep
    rw [hn] at hlater
    cases hlater
    rfl

/-- What a search ends in by itself under a limit, it ends in under every limit that is not lower,
and without one. -/
theorem Ends.of_wider {wider : Option Nat} (h : p.Ends (some n) o)
    (ho : ∀ m, o ≠ .error (.stepLimit m)) (hwider : ∀ m ∈ wider, n ≤ m) : p.Ends wider o := by
  rcases ends_iff.1 h with ⟨k, r, -, heq, -⟩ | ⟨k, r, hk, hr, hstops⟩
  · exact absurd heq (ho k)
  · refine ends_iff.2 (.inr ⟨k, r, fun m hm => ?_, hr, hstops⟩)
    have hkn : k < n := hk n rfl
    have hnm : n ≤ m := hwider m hm
    omega

/-- **A step limit only cuts a search short.** If a search under a limit ends in anything else than
giving up, then under every limit that is not lower, and without any, it ends in that and in nothing
else. If it is given up, the failure names the limit, and the search is given up under every lower
limit as well. -/
theorem limit_only_cuts_short (p : Problem) (limit : Nat) :
    (∀ o, p.Ends (some limit) o → (∀ n, o ≠ .error (.stepLimit n)) →
      ∀ wider : Option Nat, (∀ m ∈ wider, limit ≤ m) → ∀ o', p.Ends wider o' ↔ o' = o) ∧
    ∀ n, p.Ends (some limit) (.error (.stepLimit n)) →
      n = limit ∧ ∀ m ≤ limit, p.Ends (some m) (.error (.stepLimit m)) := by
  constructor
  · intro o h ho wider hwider o'
    have hends : p.Ends wider o := h.of_wider ho hwider
    constructor
    · intro h'
      exact h'.unique hends
    · rintro rfl
      exact hends
  · intro n h
    obtain ⟨rfl, r, hr⟩ := ends_stepLimit_iff.1 h
    refine ⟨rfl, fun m hm => ?_⟩
    exact ends_stepLimit_iff.2 ⟨rfl, exists_running_of_le hm hr⟩

end Library

/-- The search that has to return from a dead end accepts with its fifth step, which a limit of five
still allows. Under a limit of four it is given up, and so it is under a limit of none at all. -/
theorem limit_only_cuts_short_detour :
    detour.Ends (some 5) (.ok ⟨[.parent "S" [.leaf "x"]]⟩) ∧
      detour.Ends (some 9) (.ok ⟨[.parent "S" [.leaf "x"]]⟩) ∧
      (∀ o, detour.Ends none o ↔ o = .ok ⟨[.parent "S" [.leaf "x"]]⟩) ∧
      detour.Ends (some 4) (.error (.stepLimit 4)) ∧
      detour.Ends (some 0) (.error (.stepLimit 0)) :=
  have hfive : detour.Ends (some 5) (.ok ⟨[.parent "S" [.leaf "x"]]⟩) := rfl
  have hfour : detour.Ends (some 4) (.error (.stepLimit 4)) := rfl
  have hwider := (limit_only_cuts_short detour 5).1 _ hfive nofun
  ⟨hfive, (hwider (some 9) (by simp) _).2 rfl, hwider none nofun, hfour,
    ((limit_only_cuts_short detour 4).2 4 hfour).2 0 (Nat.zero_le 4)⟩

end BranchLR.Problem
