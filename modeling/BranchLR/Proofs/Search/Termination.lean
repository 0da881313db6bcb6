import Mathlib.Algebra.BigOperators.Group.Finset.Basic
import BranchLR.Proofs.Search.Horizon
import BranchLR.Proofs.Search.StackHeight

/-!
# Searches that end

Every move adds one node to the forest. If the forests of a search stay below a bound, the choice
tree is no deeper than the bound, and the steps that any candidate can cost can be counted. What the
search has still to pay for is its selected candidate and, of every checkpoint, the candidates
behind the selected one. Each step pays for itself out of this budget, and a checkpoint that gives
way only makes it smaller. So the search ends, whatever its horizon is.
-/

namespace BranchLR

open Automaton BuiltTable

section Library

variable [RegexLibrary]

/-- The number of nodes in the forest of a snapshot. -/
def Snapshot.size (s : Snapshot) : Nat := Node.sizeAll s.forest.newestFirst

/-- Candidates are counted on from the selected one. -/
theorem Snapshot.selecting_selecting (s : Snapshot) (i j : Nat) :
    (s.selecting i).selecting j = s.selecting (i + j) := by
  simp [Snapshot.selecting, List.take_add, List.drop_drop]

/-- An advance selects the candidate behind the selected one. -/
theorem Snapshot.advance?_eq_selecting {s next : Snapshot} (h : s.advance? = some next) :
    next = s.selecting 1 ∧ 1 < s.top.untried.length := by
  have hnext := Snapshot.advance?_selecting s 0
  rw [Problem.selecting_zero, h] at hnext
  split at hnext
  next hlt => exact ⟨Option.some.inj hnext, hlt⟩
  next => cases hnext

namespace Problem

variable {p : Problem} {r r' : Run} {s next : Snapshot} {n depth bound : Nat}

/-- A move adds one node. -/
theorem Moves.size_eq (h : p.Moves s next) : next.size = s.size + 1 := by
  cases h with
  | shift _ _ hnext =>
    cases hnext with
    | token => simp [Snapshot.size, Forest.push, Node.sizeAll, Node.size, Nat.add_comm]
    | atEnd => simp [Snapshot.size, Forest.push, Node.sizeAll, Node.size, Nat.add_comm]
  | @reduce production _ _ _ _ _ forest _ _ _ _ _ _ _ hforest =>
    dsimp only [Forest.reduce?] at hforest
    split at hforest
    next =>
      have hsplit := Node.sizeAll_append (s.forest.newestFirst.take production.rules.length)
        (s.forest.newestFirst.drop production.rules.length)
      rw [List.take_append_drop] at hsplit
      cases hforest
      simp only [Snapshot.size, Node.sizeAll, Node.size, Node.sizeAll_reverse]
      omega
    next => cases hforest

/-! ### The cost of candidates -/

/-- The steps that the selected candidate costs, with all that it leads to up to the given depth. -/
def candidateCost (p : Problem) : Nat → Snapshot → Nat
  | 0, _ => 1
  | depth + 1, s =>
    match p.attempt s with
    | .ok (.moved _ next) =>
      ∑ i ∈ Finset.range next.top.untried.length, p.candidateCost depth (next.selecting i) + 1
    | _ => 1

/-- The steps that the candidates behind the selected one cost. -/
def remainderCost (p : Problem) (depth : Nat) (s : Snapshot) : Nat :=
  ∑ i ∈ Finset.range (s.top.untried.length - 1), p.candidateCost depth (s.selecting (i + 1))

theorem candidateCost_pos (p : Problem) (depth : Nat) (s : Snapshot) :
    0 < p.candidateCost depth s := by
  cases depth with
  | zero => exact Nat.one_pos
  | succ depth =>
    unfold candidateCost
    split
    next => exact Nat.succ_pos _
    next => exact Nat.one_pos

/-- The candidates of a node are the selected one and those behind it. -/
theorem sum_candidateCost (p : Problem) (depth : Nat) (hne : s.top.untried ≠ []) :
    ∑ i ∈ Finset.range s.top.untried.length, p.candidateCost depth (s.selecting i) =
      p.remainderCost depth s + p.candidateCost depth s := by
  obtain ⟨m, hm⟩ : ∃ m, s.top.untried.length = m + 1 :=
    Nat.exists_eq_succ_of_ne_zero (by simpa using hne)
  unfold remainderCost
  rw [hm, Finset.sum_range_succ', Nat.add_sub_cancel, selecting_zero]

/-- A candidate that leads on costs one step and what all candidates of the next node cost. -/
theorem Moves.candidateCost_eq (h : p.Moves s next) (depth : Nat) :
    p.candidateCost (depth + 1) s =
      p.remainderCost depth next + p.candidateCost depth next + 1 := by
  obtain ⟨event, hattempt⟩ := h.attempt
  rw [candidateCost, hattempt]
  dsimp only
  rw [sum_candidateCost p depth h.untried_ne_nil]

/-- The candidates behind the selected one are the next one and those behind it. -/
theorem remainderCost_eq (h : s.advance? = some next) (depth : Nat) :
    p.remainderCost depth s = p.remainderCost depth next + p.candidateCost depth next := by
  obtain ⟨rfl, hlt⟩ := Snapshot.advance?_eq_selecting h
  have hlength : (s.selecting 1).top.untried.length = s.top.untried.length - 1 := by
    simp [Snapshot.selecting]
  have hne : (s.selecting 1).top.untried ≠ [] := by
    intro hempty
    rw [hempty, List.length_nil] at hlength
    omega
  rw [← sum_candidateCost p depth hne, hlength]
  unfold remainderCost
  refine Finset.sum_congr rfl fun i _ => ?_
  rw [Snapshot.selecting_selecting, Nat.add_comm]

/-! ### The budget of a search -/

/-- What the candidates behind the selected one cost in a tree whose forests are bounded. -/
def owed (p : Problem) (bound : Nat) (s : Snapshot) : Nat := p.remainderCost (bound - s.size) s

/-- What the selected candidate costs in a tree whose forests are bounded. -/
def due (p : Problem) (bound : Nat) (s : Snapshot) : Nat := p.candidateCost (bound - s.size) s

/-- The steps that a search may still take: for its selected candidate and for what is behind the
selected candidates of its checkpoints. Without a horizon the top entry is its own checkpoint. -/
def budget (p : Problem) (bound : Nat) (r : Run) : Nat :=
  p.due bound r.current + (if p.horizon = 0 then p.owed bound r.current else 0) +
    (r.saved.newestFirst.map (p.owed bound)).sum

/-- A move pays one step and owes what the next node costs. -/
theorem Moves.due_eq (h : p.Moves s next) (hbound : next.size ≤ bound) :
    p.due bound s = p.owed bound next + p.due bound next + 1 := by
  have hsize := h.size_eq
  have hdepth : bound - s.size = bound - next.size + 1 := by omega
  rw [due, hdepth, h.candidateCost_eq]
  rfl

theorem owed_eq (p : Problem) (bound : Nat) (h : s.advance? = some next) :
    p.owed bound s = p.owed bound next + p.due bound next := by
  have hsize : next.size = s.size := by
    obtain ⟨rfl, -⟩ := Snapshot.advance?_eq_selecting h
    rfl
  rw [owed, remainderCost_eq h, ← hsize]
  rfl

/-- Keeping a node as a checkpoint owes nothing but what the node owes, since without a horizon
nothing is kept. -/
theorem sum_keep_le (c : Checkpoints) (horizon : Nat) (s : Snapshot) (cost : Snapshot → Nat) :
    ((if s.top.isChoice then c.record horizon s else c).newestFirst.map cost).sum +
        (if horizon = 0 then cost s else 0) ≤
      cost s + (c.newestFirst.map cost).sum := by
  by_cases hchoice : s.top.isChoice = true
  · rw [if_pos hchoice, Checkpoints.newestFirst_record]
    by_cases hzero : horizon = 0
    · rw [if_pos hzero, hzero, List.take_zero, List.map_nil, List.sum_nil]
      omega
    · rw [if_neg hzero]
      have htake : ((s :: c.newestFirst).take horizon).Sublist (s :: c.newestFirst) :=
        List.take_sublist _ _
      have hsum := (htake.map cost).sum_le_sum fun _ _ => Nat.zero_le _
      rw [List.map_cons, List.sum_cons] at hsum
      omega
  · rw [if_neg hchoice]
    split
    next => omega
    next => omega

/-- **Every step is paid for out of the budget.** -/
theorem Takes.budget_lt (h : p.Takes r r') (hbound : r'.current.size ≤ bound)
    (hempty : p.horizon = 0 → r.saved.newestFirst = []) : p.budget bound r' < p.budget bound r := by
  have hpos : 0 < p.due bound r.current := candidateCost_pos _ _ _
  unfold budget
  cases h with
  | @move next hmoves =>
    have hdue := hmoves.due_eq hbound
    have hkeep := sum_keep_le r.saved p.horizon next (p.owed bound)
    dsimp only
    omega
  | nextCandidate _ hzero hadvance =>
    have howed := owed_eq p bound hadvance
    simp only [if_pos hzero]
    omega
  | backtrack _ _ hretry =>
    obtain ⟨dropped, s, rest, hsplit, -, hs, hnewest⟩ := Checkpoints.retryFrom_eq_some hretry
    have howed := owed_eq p bound hs
    have hhorizon : p.horizon ≠ 0 := by
      intro hzero
      rw [hempty hzero] at hsplit
      simp at hsplit
    simp only [if_neg hhorizon, hnewest, hsplit, List.map_append, List.map_cons, List.sum_append,
      List.sum_cons]
    omega

/-- **A search whose forests are bounded ends.** -/
theorem exists_ended_of_bounded (hbound : ∀ r, p.Reachable r → r.current.size ≤ bound) :
    ∃ n o, p.advance n p.start = .ended o := by
  have hspent : ∀ n r, p.advance n p.start = .running r →
      n + p.budget bound r ≤ p.budget bound p.start := by
    intro n
    induction n with
    | zero =>
      intro r hr
      cases hr
      omega
    | succ n ih =>
      intro r hr
      obtain ⟨r₁, hr₁, htakes⟩ := exists_takes_of_running hr
      have hreachable : p.Reachable r₁ := ⟨n, hr₁⟩
      have hbefore := ih r₁ hr₁
      have hlt := htakes.budget_lt (hbound r ⟨n + 1, hr⟩) hreachable.saved_eq_nil
      omega
  refine ⟨p.budget bound p.start + 1, ?_⟩
  cases hended : p.advance (p.budget bound p.start + 1) p.start with
  | ended o => exact ⟨o, rfl⟩
  | running r =>
    have hle := hspent _ r hended
    omega

/-- **Searches over grounded productions end.** Over a table built from a grammar in which no hidden
opening leads back to where it came from and no item wraps itself, a search without a step limit
ends on every input and with every horizon. So there is a step limit that the search does not reach.
-/
theorem ends_of_grounded {start : String} {built : BuiltTable}
    (hbuilt : withStart p.grammar start = .ok built) (htable : p.table = built.table)
    (hgrounded : Grounded built.productions) :
    ∃ limit o, p.Ends none o ∧ p.solve limit = o ∧ ∀ n, o ≠ .error (.stepLimit n) := by
  obtain ⟨hp, -, -⟩ := builtFrom_of_table hbuilt htable
  have hproper : ∀ production, Proper (numbered start built.productions) production →
      production ∈ built.productions := by
    intro production hproduction
    rwa [proper_numbered] at hproduction
  have hbound : ∀ r, p.Reachable r →
      r.current.size ≤ forestBound built.productions p.input := by
    intro r hr
    obtain ⟨qs, hinside⟩ := (hr.inside hp).1
    exact hinside.sizeAll_le hp hproper hgrounded hr.sound.1
  obtain ⟨n, o, hended⟩ := exists_ended_of_bounded hbound
  refine ⟨n, o, ⟨n, hended⟩, by simp [solve, hended], ?_⟩
  rintro m rfl
  obtain ⟨r, hr, hstops⟩ := exists_stops_of_ended hended
  rcases hstops.cases_of_wellFormed hr hp.wellFormed with ⟨f, hf⟩ | ⟨e, he, hrejection⟩
  · cases hf
  · cases he
    cases hrejection

end Problem

end Library

namespace Problem

/-- Any number of strokes, by left recursion from nothing. -/
def strokes : Grammar where
  items := [⟨"S", .rule, [[.item "S", .literal "x"], [.empty]]⟩]
  start := some "S"
  nodup_names := by decide
  wellFormed := by
    intro item h
    obtain rfl := List.mem_singleton.1 h
    exact ⟨by decide, by decide⟩
  start_mem := by decide

/-- The table of strokes, which begins with a choice between a token and nothing. -/
def strokesTable : BuiltTable where
  initial := [.shift 0, .reduce ⟨"S", []⟩]
  rows := #[⟨[(.item "S", [.shift 1, .accept])]⟩,
    ⟨[(.literal "x", [.reduce ⟨"S", [.item "S", .literal "x"]⟩])]⟩, ⟨[]⟩]
  acceptItem := "S"
  productions := [⟨"S", [.item "S", .literal "x"]⟩, ⟨"S", []⟩]

/-- Left recursion with a token behind it is grounded, although its item is nullable. -/
theorem grounded_strokes : Grounded strokesTable.productions := by
  have hliteral : ¬Nullable strokesTable.productions (.literal "x") := nofun
  refine ⟨?_, ?_⟩
  · rintro A B ⟨before, after, hne, hmem, -⟩
    obtain ⟨X, before, rfl⟩ := List.exists_cons_of_ne_nil hne
    simp [strokesTable, List.append_eq_cons_iff] at hmem
  · have hwraps : ∀ A B, ¬WrapsFirst strokesTable.productions A B := by
      rintro A B ⟨after, hmem, hnullable⟩
      simp only [strokesTable, List.mem_cons, Production.mk.injEq, List.cons.injEq,
        List.not_mem_nil, or_false] at hmem
      rcases hmem with ⟨-, -, rfl⟩ | ⟨-, h⟩
      · exact hliteral (hnullable _ List.mem_cons_self)
      · cases h
    intro A hchain
    cases hchain with
    | single h => exact hwraps _ _ h
    | tail _ h => exact hwraps _ _ h

/-- Left recursion from nothing ends even if no checkpoint is kept. -/
theorem ends_of_grounded_strokes :
    withStart strokes "S" = .ok strokesTable ∧ Grounded strokesTable.productions ∧
      ∃ limit o, Problem.Ends ⟨strokes, strokesTable.table, unclosed, 0⟩ none o ∧
        Problem.solve ⟨strokes, strokesTable.table, unclosed, 0⟩ limit = o ∧
        ∀ n, o ≠ .error (.stepLimit n) :=
  have hbuilt : withStart strokes "S" = .ok strokesTable := by cbv
  ⟨hbuilt, grounded_strokes,
    ends_of_grounded (p := ⟨strokes, strokesTable.table, unclosed, 0⟩) hbuilt rfl grounded_strokes⟩

end Problem

end BranchLR
