import BranchLR.Proofs.Automaton.States
import Mathlib.Algebra.Order.Ring.Nat
import Mathlib.Data.List.Nodup
import Mathlib.Data.List.Perm.Subperm
import Mathlib.Logic.Function.Iterate

/-!
# Both worklists run empty

Closing and exploring go round by round: the first of what is still to do is finished, and what is
new because of it is put behind the rest. Neither takes anything up twice. So a closed set lists
each member once, no two states have the same kernel, and as a kernel is an ordered set of dotted
productions, there are at most as many states as there are such sets.
-/

namespace BranchLR

/-- Each member of a list is kept once. -/
theorem nodup_eraseDups {α : Type} [BEq α] [LawfulBEq α] : ∀ l : List α, l.eraseDups.Nodup
  | [] => by simp
  | a :: l => by
    rw [List.eraseDups_cons, List.nodup_cons]
    refine ⟨?_, nodup_eraseDups (l.filter fun b => !b == a)⟩
    rw [List.mem_eraseDups]
    simp
termination_by l => l.length
decreasing_by
  have hle := List.length_filter_le (fun b => !b == a) l
  simp only [List.length_cons]
  omega

theorem length_sublistsOf {α : Type} (l : List α) : (sublistsOf l).length = 2 ^ l.length := by
  induction l with
  | nil => rfl
  | cons a l ih =>
    rw [sublistsOf, List.length_append, List.length_map, ih, List.length_cons]
    omega

variable [RegexLibrary]

namespace Automaton

variable {ps : Array Production}

/-! ### Closing -/

/-- One round of closing: the first member in hand is finished, and what it predicts is added. -/
def closeRound (ps : Array Production) : List Dotted × List Dotted → List Dotted × List Dotted
  | (done, []) => (done, [])
  | (done, d :: rest) =>
    (done ++ [d], rest ++ (predicted ps d).filter fun e => !(done ++ d :: rest).contains e)

/-- Closing ends after as many rounds as it finishes members. -/
theorem exists_iterate_closeRound (ps : Array Production) (done todo : List Dotted) :
    ∃ rounds, done.length + rounds = (closeFrom ps done todo).length ∧
      (closeRound ps)^[rounds] (done, todo) = (closeFrom ps done todo, []) := by
  fun_induction closeFrom ps done todo with
  | case1 done => exact ⟨0, rfl, rfl⟩
  | case2 done d rest ih =>
    obtain ⟨rounds, hlength, hrounds⟩ := ih
    refine ⟨rounds + 1, ?_, ?_⟩
    · rw [← hlength, List.length_append, List.length_singleton]
      omega
    · rw [Function.iterate_succ_apply]
      exact hrounds

theorem nodup_predicted (d : Dotted) : (predicted ps d).Nodup := by
  unfold predicted
  split
  next name =>
    refine List.Nodup.map ?_ (List.Nodup.filter _ List.nodup_range)
    intro i j hij
    simpa using hij
  next => exact List.nodup_nil

/-- Closing takes nothing up twice. -/
theorem nodup_closeFrom (done todo : List Dotted) (h : (done ++ todo).Nodup) :
    (closeFrom ps done todo).Nodup := by
  fun_induction closeFrom ps done todo with
  | case1 done => simpa using h
  | case2 done d rest ih =>
    apply ih
    have hassoc : done ++ [d] ++ (rest ++
        (predicted ps d).filter fun e => !(done ++ d :: rest).contains e) =
        (done ++ d :: rest) ++
          (predicted ps d).filter fun e => !(done ++ d :: rest).contains e := by
      simp
    rw [hassoc, List.nodup_append]
    refine ⟨h, (nodup_predicted d).filter _, ?_⟩
    rintro a ha b hb rfl
    have hfresh := (List.mem_filter.1 hb).2
    rw [List.contains_iff_mem.2 ha] at hfresh
    cases hfresh

/-! ### Exploring -/

/-- One round of exploring: the first kernel in hand becomes a state with its transitions, and the
kernels that it leads to are added. -/
def exploreRound (ps : Array Production) :
    List State × List (List Dotted) → List State × List (List Dotted)
  | (done, []) => (done, [])
  | (done, kernel :: rest) =>
    let known := kernels done (kernel :: rest)
    let items := closure ps kernel
    let targets := moves ps items
    let fresh := freshTargets known targets
    (done ++ [stateOf (known ++ fresh) kernel items targets], rest ++ fresh)

/-- Exploring ends after as many rounds as it finishes states. -/
theorem exists_iterate_exploreRound (ps : Array Production) (done : List State)
    (todo : List (List Dotted)) :
    ∃ rounds, done.length + rounds = (explore ps done todo).length ∧
      (exploreRound ps)^[rounds] (done, todo) = (explore ps done todo, []) := by
  fun_induction explore ps done todo with
  | case1 done => exact ⟨0, rfl, rfl⟩
  | case2 done kernel rest known items targets fresh ih =>
    obtain ⟨rounds, hlength, hrounds⟩ := ih
    refine ⟨rounds + 1, ?_, ?_⟩
    · rw [← hlength, List.length_append, List.length_singleton]
      omega
    · rw [Function.iterate_succ_apply]
      exact hrounds

/-- A round keeps the kernels in hand and adds the fresh ones. -/
theorem kernels_round (done : List State) (kernel : List Dotted) (rest fresh : List (List Dotted))
    (known : List (List Dotted)) (items : List Dotted) (targets : List (Rule × List Dotted)) :
    kernels (done ++ [stateOf known kernel items targets]) (rest ++ fresh) =
      kernels done (kernel :: rest) ++ fresh := by
  simp [kernels, stateOf]

/-- Exploring takes no kernel up twice. -/
theorem nodup_kernels_explore (done : List State) (todo : List (List Dotted))
    (h : (kernels done todo).Nodup) : ((explore ps done todo).map State.kernel).Nodup := by
  fun_induction explore ps done todo with
  | case1 done => simpa [kernels] using h
  | case2 done kernel rest known items targets fresh ih =>
    apply ih
    rw [kernels_round, List.nodup_append]
    refine ⟨h, ?_, ?_⟩
    · exact nodup_eraseDups _
    · rintro a ha b hb rfl
      have hfresh := (List.mem_filter.1 (List.mem_eraseDups.1 hb)).2
      rw [List.contains_iff_mem.2 ha] at hfresh
      cases hfresh

/-- What the first kernels satisfy and every move leads to holds of the kernels of all states. -/
theorem explore_induction {P : List Dotted → Prop}
    (hmoves : ∀ items, ∀ move ∈ moves ps items, P move.2) (done : List State)
    (todo : List (List Dotted)) (h : ∀ kernel ∈ kernels done todo, P kernel) :
    ∀ kernel ∈ (explore ps done todo).map State.kernel, P kernel := by
  fun_induction explore ps done todo with
  | case1 done => simpa [kernels] using h
  | case2 done kernel rest known items targets fresh ih =>
    apply ih
    rw [kernels_round]
    intro k hk
    rcases List.mem_append.1 hk with hk | hk
    · exact h k hk
    · obtain ⟨move, hmove, rfl⟩ :=
        List.mem_map.1 (List.mem_filter.1 (List.mem_eraseDups.1 hk)).1
      exact hmoves items move hmove

/-! ### The states -/

/-- No two states have the same kernel. -/
theorem nodup_kernels : ((states ps).map State.kernel).Nodup :=
  nodup_kernels_explore [] [[⟨0, 0⟩]] (by simp [kernels])

/-- Kernels are ordered. -/
theorem pairwise_kernel {state : State} (h : state ∈ states ps) :
    state.kernel.Pairwise Dotted.Precedes := by
  refine explore_induction (P := List.Pairwise Dotted.Precedes) ?_ [] [[⟨0, 0⟩]] ?_ state.kernel
    (List.mem_map.2 ⟨state, h, rfl⟩)
  · intro items move hmove
    obtain ⟨X, -, rfl⟩ := List.mem_map.1 hmove
    exact Dotted.pairwise_sorted _
  · simp [kernels]

/-- The closed set of a state lists each member once. -/
theorem nodup_closure {state : State} (h : state ∈ states ps) : state.closure.Nodup := by
  rw [(states_linked state h).closure_eq]
  apply nodup_closeFrom
  exact (pairwise_kernel h).imp Dotted.Precedes.ne

/-- There are at most as many states as there are sets of dotted productions. -/
theorem length_states_le (h : 0 < ps.size) : (states ps).length ≤ 2 ^ (places ps).length := by
  have hzero : (⟨0, 0⟩ : Dotted) ∈ places ps := by
    simp only [places, List.mem_flatMap, List.mem_map, List.mem_range]
    exact ⟨0, h, 0, Nat.zero_lt_succ _, rfl⟩
  have hsub : ∀ kernel ∈ (states ps).map State.kernel, kernel ∈ sublistsOf (places ps) := by
    intro kernel hkernel
    obtain ⟨state, hstate, rfl⟩ := List.mem_map.1 hkernel
    refine mem_sublistsOf (pairwise_kernel hstate) (pairwise_places ps) ?_
    refine explore_induction (P := fun kernel => ∀ d ∈ kernel, d ∈ places ps) ?_ [] [[⟨0, 0⟩]] ?_
      state.kernel hkernel
    · intro items move hmove d hd
      obtain ⟨X, -, rfl⟩ := List.mem_map.1 hmove
      obtain ⟨a, ha, rfl⟩ := List.mem_map.1 (Dotted.mem_sorted.1 hd)
      exact advances_subset_places ps (List.mem_filter.1 ha).1
    · simp [kernels, hzero]
  have hle := (nodup_kernels.subperm hsub).length_le
  rwa [length_sublistsOf, List.length_map] at hle

/-- The exploration ends: after as many rounds as there are states nothing is left to do. -/
theorem iterate_exploreRound_states :
    (exploreRound ps)^[(states ps).length] ([], [[⟨0, 0⟩]]) = (states ps, []) := by
  obtain ⟨rounds, hlength, hrounds⟩ := exists_iterate_exploreRound ps [] [[⟨0, 0⟩]]
  rw [List.length_nil, Nat.zero_add] at hlength
  rw [hlength] at hrounds
  exact hrounds

/-- Closing the kernel of a state ends: after as many rounds as the closed set has members nothing
is left to do. -/
theorem iterate_closeRound_closure {state : State} (h : state ∈ states ps) :
    (closeRound ps)^[state.closure.length] ([], state.kernel) = (state.closure, []) := by
  obtain ⟨rounds, hlength, hrounds⟩ := exists_iterate_closeRound ps [] state.kernel
  have hclosure : closeFrom ps [] state.kernel = state.closure :=
    (states_linked state h).closure_eq.symm
  rw [List.length_nil, Nat.zero_add, hclosure] at hlength
  rw [hlength, hclosure] at hrounds
  exact hrounds

end Automaton

end BranchLR
