import Mathlib.Data.List.Infix
import BranchLR.Proofs.Search.Following
import BranchLR.Proofs.Search.Rejections
import BranchLR.Proofs.Search.Soundness

/-!
# Searches with a wider horizon

Two searches that differ in their horizons alone work on the same snapshot step by step, for as long
as the narrower one goes on. The checkpoints of the narrower search are always the newest ones of
the wider. A search without any horizon moves its top entry on in place, and the wider one does the
same by returning to its newest checkpoint, because an entry with a candidate left is always the
newest checkpoint. So a wider horizon can only turn a rejection into something else, and if it does
not, the place that is named does not move back.
-/

namespace BranchLR

section Library

variable [RegexLibrary]

namespace Checkpoints

/-- The first snapshot with a candidate left is moved on, whatever stands behind it. -/
theorem retryFrom_of_eq_append {saved dropped rest : List Snapshot} {s next : Snapshot} {size : Nat}
    {h : size = saved.length} (hsplit : saved = dropped ++ s :: rest)
    (hdropped : ∀ d ∈ dropped, d.advance? = none) (hs : s.advance? = some next) :
    ∃ c, retryFrom saved size h = some (next, c) ∧ c.newestFirst = next :: rest := by
  induction dropped generalizing saved size with
  | nil =>
    subst hsplit
    refine ⟨⟨next :: rest, size, by simpa using h⟩, ?_, rfl⟩
    simp [retryFrom, hs]
  | cons d dropped ih =>
    subst hsplit
    have hd : d.advance? = none := hdropped d List.mem_cons_self
    have hlater : ∀ e ∈ dropped, e.advance? = none := by
      intro e he
      exact hdropped e (List.mem_cons_of_mem d he)
    simp only [List.cons_append, retryFrom, hd]
    exact ih rfl hlater

/-- Checkpoints behind the others do not change what is found among the others. -/
theorem retry_of_prefix {c d found : Checkpoints} {next : Snapshot}
    (hpre : c.newestFirst <+: d.newestFirst) (hretry : c.retry = some (next, found)) :
    ∃ found', d.retry = some (next, found') ∧ found.newestFirst <+: found'.newestFirst := by
  obtain ⟨older, holder⟩ := hpre
  obtain ⟨dropped, s, rest, hsplit, hdropped, hs, hnewest⟩ := retryFrom_eq_some hretry
  have hsplit' : d.newestFirst = dropped ++ s :: (rest ++ older) := by
    rw [← holder, hsplit, List.append_assoc, List.cons_append]
  obtain ⟨found', hfound, hnewest'⟩ := retryFrom_of_eq_append (h := d.size_eq) hsplit' hdropped hs
  refine ⟨found', hfound, ?_⟩
  rw [hnewest, hnewest']
  exact ⟨older, rfl⟩

/-- Of a snapshot that has just been reached and more old checkpoints, a wider horizon keeps at
least as many. -/
theorem newestFirst_keep_prefix {c d : Checkpoints} {narrow wide : Nat} (s : Snapshot)
    (hpre : c.newestFirst <+: d.newestFirst) (hle : narrow ≤ wide) :
    (if s.top.isChoice then c.record narrow s else c).newestFirst <+:
      (if s.top.isChoice then d.record wide s else d).newestFirst := by
  split
  next =>
    have hcons : s :: c.newestFirst <+: s :: d.newestFirst := by
      rw [List.cons_prefix_cons]
      exact ⟨rfl, hpre⟩
    have hwide : (s :: d.newestFirst).take narrow <+: (s :: d.newestFirst).take wide :=
      List.take_prefix_take_left hle
    rw [newestFirst_record, newestFirst_record]
    exact (hcons.take narrow).trans hwide
  next => exact hpre

/-- With any horizon at all, a snapshot with a choice that has just been reached is the newest
checkpoint. -/
theorem head?_keep (c : Checkpoints) {horizon : Nat} {s : Snapshot} (h : 0 < horizon)
    (hchoice : s.top.isChoice = true) :
    (if s.top.isChoice then c.record horizon s else c).newestFirst.head? = some s := by
  obtain ⟨n, rfl⟩ : ∃ n, horizon = n + 1 := ⟨horizon - 1, by omega⟩
  rw [if_pos hchoice, newestFirst_record, List.take_succ_cons, List.head?_cons]

end Checkpoints

/-- A snapshot can advance exactly when its top entry has a choice. -/
theorem Snapshot.advance?_eq_none_iff {s : Snapshot} :
    s.advance? = none ↔ s.top.isChoice = false := by
  have hadvance := s.advance?_selecting 0
  rw [Problem.selecting_zero] at hadvance
  have hchoice := Entry.isChoice_iff (e := s.top)
  rw [hadvance]
  split
  next hmore => simp [hchoice.2 hmore]
  next hlast =>
    have hfalse : s.top.isChoice = false := by
      simpa using fun h => hlast (hchoice.1 h)
    simp [hfalse]

namespace Problem

variable {p : Problem} {r r' r₁ : Run} {o : Outcome} {horizon n : Nat} {limit : Option Nat}

/-- The same problem under another horizon. -/
def withHorizon (p : Problem) (horizon : Nat) : Problem := { p with horizon }

/-- What an action comes to does not depend on the horizon. -/
theorem attempt_withHorizon (p : Problem) (horizon : Nat) (s : Snapshot) :
    (p.withHorizon horizon).attempt s = p.attempt s := rfl

/-- A search and one with a wider horizon work on the same snapshot and have looked equally far. The
checkpoints of the first are the newest of the second, and what can still advance is the newest of
them all. -/
structure Mirrors (wide : Nat) (r r' : Run) : Prop where
  current : r'.current = r.current
  furthest : r'.furthest = r.furthest
  saved : r.saved.newestFirst <+: r'.saved.newestFirst
  newest : 0 < wide → r'.current.top.isChoice = true →
    r'.saved.newestFirst.head? = some r'.current

theorem mirrors_start (hle : p.horizon ≤ horizon) :
    Mirrors horizon p.start (p.withHorizon horizon).start := by
  refine ⟨rfl, rfl, ?_, ?_⟩
  · exact Checkpoints.newestFirst_keep_prefix p.root List.prefix_rfl hle
  · intro hwide hchoice
    exact Checkpoints.head?_keep .empty hwide hchoice

/-- A snapshot that can advance is what the wider search returns to. -/
theorem Mirrors.retry (h : Mirrors horizon r r') (hwide : 0 < horizon) {next : Snapshot}
    (hadvance : r.current.advance? = some next) :
    ∃ found, r'.saved.retry = some (next, found) ∧ found.newestFirst.head? = some next := by
  have hcurrent : r'.current.advance? = some next := by rw [h.current, hadvance]
  have hchoice : r'.current.top.isChoice = true := by
    by_contra hfalse
    have hnone := Snapshot.advance?_eq_none_iff.2 (Bool.eq_false_iff.2 hfalse)
    cases hcurrent.symm.trans hnone
  obtain ⟨rest, hsaved⟩ := List.head?_eq_some_iff.1 (h.newest hwide hchoice)
  have hdropped : ∀ d ∈ ([] : List Snapshot), d.advance? = none := nofun
  obtain ⟨found, hfound, hnewest⟩ :=
    Checkpoints.retryFrom_of_eq_append (h := r'.saved.size_eq) hsaved hdropped hcurrent
  exact ⟨found, hfound, by rw [hnewest, List.head?_cons]⟩

/-- Each step of the narrower search is also a step of the wider one. -/
theorem Mirrors.takes (h : Mirrors horizon r r') (hle : p.horizon ≤ horizon)
    (hempty : p.horizon = 0 → r.saved.newestFirst = []) (htakes : p.Takes r r₁) :
    ∃ r₁', (p.withHorizon horizon).Takes r' r₁' ∧ Mirrors horizon r₁ r₁' := by
  have hlooked : lookedAt r'.current r'.furthest = lookedAt r.current r.furthest := by
    rw [h.current, h.furthest]
  have hstuck' {event : Option Event} (hstuck : p.attempt r.current = .ok (.stuck event)) :
      (p.withHorizon horizon).attempt r'.current = .ok (.stuck event) := by
    rw [attempt_withHorizon, h.current, hstuck]
  cases htakes with
  | @move next hmoves =>
    have hmoves' : (p.withHorizon horizon).Moves r'.current next := by
      obtain ⟨event, hattempt⟩ := hmoves.attempt
      refine attempt_moved_iff.1 ⟨event, ?_⟩
      rw [attempt_withHorizon, h.current, hattempt]
    refine ⟨_, .move hmoves', rfl, hlooked, ?_, ?_⟩
    · exact Checkpoints.newestFirst_keep_prefix next h.saved hle
    · intro hwide hchoice
      exact Checkpoints.head?_keep r'.saved hwide hchoice
  | @nextCandidate event next hstuck hzero hadvance =>
    by_cases hwide : 0 < horizon
    · -- The wider search has the top entry as its newest checkpoint and returns to it.
      obtain ⟨found, hretry, hnewest⟩ := h.retry hwide hadvance
      have hlast : (p.withHorizon horizon).horizon = 0 → r'.current.advance? = none := by
        intro hhorizon
        exact absurd hhorizon (Nat.ne_of_gt hwide)
      refine ⟨_, .backtrack (hstuck' hstuck) hlast hretry, rfl, hlooked, ?_, fun _ _ => hnewest⟩
      rw [hempty hzero]
      exact List.nil_prefix
    · have hhorizon : (p.withHorizon horizon).horizon = 0 := Nat.eq_zero_of_not_pos hwide
      have hadvance' : r'.current.advance? = some next := by rw [h.current, hadvance]
      refine ⟨_, .nextCandidate (hstuck' hstuck) hhorizon hadvance', rfl, hlooked, h.saved, ?_⟩
      intro hpos
      exact absurd hpos hwide
  | @backtrack event next saved hstuck hlast hretry =>
    obtain ⟨found, hretry', hpre⟩ := Checkpoints.retry_of_prefix h.saved hretry
    have hlast' : (p.withHorizon horizon).horizon = 0 → r'.current.advance? = none := by
      intro hhorizon
      rw [h.current]
      have hzero : horizon = 0 := hhorizon
      exact hlast (by omega)
    refine ⟨_, .backtrack (hstuck' hstuck) hlast' hretry', rfl, hlooked, hpre, fun _ _ => ?_⟩
    obtain ⟨_, _, rest, _, _, _, hnewest⟩ := Checkpoints.retryFrom_eq_some hretry'
    rw [hnewest, List.head?_cons]

/-- Without a horizon nothing is ever saved. -/
theorem Reachable.saved_eq_nil (h : p.Reachable r) (hzero : p.horizon = 0) :
    r.saved.newestFirst = [] := by
  refine h.induction (P := fun r => r.saved.newestFirst = []) ?_ ?_
  · simp only [start]
    split
    next => rw [Checkpoints.newestFirst_record, hzero, List.take_zero]
    next => rfl
  · intro r r' _ hsaved htakes
    cases htakes with
    | move =>
      dsimp only
      split
      next => rw [Checkpoints.newestFirst_record, hzero, List.take_zero]
      next => exact hsaved
    | nextCandidate => exact hsaved
    | backtrack _ _ hretry =>
      obtain ⟨dropped, s, rest, hsplit, -⟩ := Checkpoints.retryFrom_eq_some hretry
      simp [hsaved] at hsplit

/-- While the narrower search goes on, so does the wider one, in the same way. -/
theorem exists_mirrors (hle : p.horizon ≤ horizon) (h : p.advance n p.start = .running r) :
    ∃ r', (p.withHorizon horizon).advance n (p.withHorizon horizon).start = .running r' ∧
      Mirrors horizon r r' := by
  induction n generalizing r with
  | zero =>
    cases h
    exact ⟨_, rfl, mirrors_start hle⟩
  | succ n ih =>
    obtain ⟨r₁, hr₁, htakes⟩ := exists_takes_of_running h
    obtain ⟨r₁', hr₁', hmirrors⟩ := ih hr₁
    have hreachable : p.Reachable r₁ := ⟨n, hr₁⟩
    obtain ⟨r', htakes', hmirrors'⟩ := hmirrors.takes hle hreachable.saved_eq_nil htakes
    refine ⟨r', ?_, hmirrors'⟩
    rw [advance_succ_of_running hr₁', htakes'.step_eq]

/-- What ends the narrower search, other than a lack of branches, ends the wider one. -/
theorem Mirrors.stops (h : Mirrors horizon r r') (hstops : p.Stops r o)
    (ho : ∀ e, o = .error e → e.isRejection = false) : (p.withHorizon horizon).Stops r' o := by
  have hattempt : (p.withHorizon horizon).attempt r'.current = p.attempt r.current := by
    rw [attempt_withHorizon, h.current]
  cases hstops with
  | failure hfailure => exact .failure (hattempt.trans hfailure)
  | acceptance haccepted =>
    rw [← h.current]
    exact .acceptance (hattempt.trans haccepted)
  | rejection =>
    have hrejection := ho _ rfl
    rw [isRejection_rejection] at hrejection
    cases hrejection

/-- The wider of two searches that are both rejected has looked at least as far. -/
theorem RejectsAt.le {place place' : Nat} (hle : p.horizon ≤ horizon)
    (h : p.RejectsAt limit place) (h' : (p.withHorizon horizon).RejectsAt limit place') :
    place ≤ place' := by
  obtain ⟨n, r, -, hr, -, rfl⟩ := h
  obtain ⟨m, last, -, hlast, hout, rfl⟩ := h'
  obtain ⟨r', hr', hmirrors⟩ := exists_mirrors hle hr
  have hlooked : lookedAt r'.current r'.furthest = lookedAt r.current r.furthest := by
    rw [hmirrors.current, hmirrors.furthest]
  rw [← hlooked]
  -- The wider search has come as far as the narrower one before it is rejected itself.
  have hnm : n ≤ m := by
    have hended := advance_eq_ended_of_step (Nat.lt_succ_self m) hlast hout.stops.step_eq
    have hlt := lt_of_ended hr' hended
    omega
  obtain ⟨k, rfl⟩ := Nat.exists_eq_add_of_le hnm
  rw [advance_add, hr'] at hlast
  exact lookedAt_le_of_advance hlast

/-- **A wider horizon keeps every result that is not a rejection.** If a search ends in a tree, at
its step limit or in a broken promise of the table, then under any wider horizon it ends in just the
same. If both searches are rejected, the place that the wider one names is not before the place that
the narrower one names. -/
theorem ends_withHorizon (p : Problem) {horizon : Nat} (hle : p.horizon ≤ horizon)
    (limit : Option Nat) :
    (∀ o, (∀ e, o = .error e → e.isRejection = false) → p.Ends limit o →
      (p.withHorizon horizon).Ends limit o) ∧
    ∀ e e', e.isRejection = true → e'.isRejection = true → p.Ends limit (.error e) →
      (p.withHorizon horizon).Ends limit (.error e') →
      ∃ place place', p.RejectsAt limit place ∧ (p.withHorizon horizon).RejectsAt limit place' ∧
        e = p.rejection place ∧ e' = p.rejection place' ∧ place ≤ place' ∧
        place' ≤ p.input.size := by
  constructor
  · intro o ho h
    rcases ends_iff.1 h with ⟨n, r, rfl, rfl, hr⟩ | ⟨k, r, hk, hr, hstops⟩
    · obtain ⟨r', hr', -⟩ := exists_mirrors hle hr
      exact ends_iff.2 (.inl ⟨n, r', rfl, rfl, hr'⟩)
    · obtain ⟨r', hr', hmirrors⟩ := exists_mirrors hle hr
      exact ends_iff.2 (.inr ⟨k, r', hk, hr', hmirrors.stops hstops ho⟩)
  · intro e e' he he' h h'
    obtain ⟨place, hplace, heq, -⟩ := h.exists_rejectsAt he
    obtain ⟨place', hplace', heq', hsize⟩ := h'.exists_rejectsAt he'
    exact ⟨place, place', hplace, hplace', heq, heq', RejectsAt.le hle hplace hplace', hsize⟩

end Problem

end Library

namespace Problem

/-- A search whose first candidate leads to a dead end at once and whose second reads on, but never
to an end. -/
def straying : Problem where
  grammar := .empty
  table := .ofRows [.shift 1, .shift 0]
    #[⟨[(.literal "x", [.shift 0])]⟩, ⟨[(.literal "x", [.reduce ⟨"S", [.literal "y"]⟩])]⟩]
    "S"
  input := ⟨#[⟨"IDENT", "x", ⟨1, 1⟩⟩, ⟨"IDENT", "x", ⟨1, 2⟩⟩]⟩
  horizon := 0

/-- Returning once from a dead end is enough for a tree, which a wider horizon keeps. Without any
horizon a search is rejected at its first token that comes to the end of its input with one. -/
theorem ends_withHorizon_detour :
    (detour.withHorizon 1).Ends none (.ok ⟨[.parent "S" [.leaf "x"]]⟩) ∧
      detour.Ends none (.ok ⟨[.parent "S" [.leaf "x"]]⟩) ∧
      straying.Ends none (.error (.rejected "x" ⟨1, 1⟩)) ∧
      (straying.withHorizon 1).Ends none (.error (.unexpectedEnd ⟨1, 2⟩)) ∧
      ∃ place place', straying.RejectsAt none place ∧
        (straying.withHorizon 1).RejectsAt none place' ∧ place ≤ place' :=
  have hnarrow : (detour.withHorizon 1).Ends none (.ok ⟨[.parent "S" [.leaf "x"]]⟩) := ⟨5, rfl⟩
  have hfirst : straying.Ends none (.error (.rejected "x" ⟨1, 1⟩)) := ⟨2, rfl⟩
  have hsecond : (straying.withHorizon 1).Ends none (.error (.unexpectedEnd ⟨1, 2⟩)) := ⟨5, rfl⟩
  have hle : (detour.withHorizon 1).horizon ≤ 100 := by decide
  have hwide : detour.Ends none (.ok ⟨[.parent "S" [.leaf "x"]]⟩) :=
    (ends_withHorizon (detour.withHorizon 1) hle none).1 _ nofun hnarrow
  have hplaces := (ends_withHorizon straying (Nat.zero_le 1) none).2 _ _ rfl rfl hfirst hsecond
  ⟨hnarrow, hwide, hfirst, hsecond,
    let ⟨place, place', h, h', _, _, hle, _⟩ := hplaces
    ⟨place, place', h, h', hle⟩⟩

end Problem

end BranchLR
