import BranchLR.Proofs.Automaton.Tables

/-!
# Where the members of a state come from

Every dotted production of a closed set is in its kernel or is predicted by another member. The
kernel of the first state is the production that starts the automaton, with the mark in front. The
kernel of every other state holds what its transitions lead to: members of the state before, with
the mark moved over the symbol that was read. So the marks of a state can be followed backwards
along the symbols that led to it.
-/

namespace BranchLR.Automaton

variable [RegexLibrary]

variable {ps : Array Production} {d e : Dotted} {X : Rule} {q next : Nat} {production : Production}

/-- The productions besides the one that starts the automaton. -/
def Proper (ps : Array Production) (production : Production) : Prop :=
  ∃ number, number ≠ 0 ∧ ps[number]? = some production

/-! ### The rules behind a mark -/

/-- The rule behind a mark is the first of those that stand behind it. -/
theorem drop_of_nextRule (hproduction : ps[d.production]? = some production)
    (hnext : nextRule ps d = some X) :
    production.rules.drop d.dot = X :: production.rules.drop (d.dot + 1) := by
  have hget : production.rules[d.dot]? = some X := by simpa [nextRule, hproduction] using hnext
  obtain ⟨hlt, rfl⟩ := List.getElem?_eq_some_iff.1 hget
  exact List.drop_eq_getElem_cons hlt

theorem dot_lt_length (hproduction : ps[d.production]? = some production)
    (hnext : nextRule ps d = some X) : d.dot < production.rules.length := by
  have hget : production.rules[d.dot]? = some X := by simpa [nextRule, hproduction] using hnext
  exact (List.getElem?_eq_some_iff.1 hget).1

theorem nextRule_of_drop {rules : List Rule} (hproduction : ps[d.production]? = some production)
    (hrules : production.rules.drop d.dot = X :: rules) :
    nextRule ps d = some X ∧ production.rules.drop (d.dot + 1) = rules := by
  have hget : production.rules[d.dot]? = some X := by
    rw [← List.head?_drop, hrules, List.head?_cons]
  refine ⟨by simp [nextRule, hproduction, hget], ?_⟩
  rw [← List.drop_drop, hrules, List.drop_one, List.tail_cons]

/-! ### Closed sets -/

/-- What a prediction adds: the productions of the expected item, with the mark in front. -/
theorem exists_of_mem_predicted (h : e ∈ predicted ps d) :
    ∃ production, nextRule ps d = some (.item production.item) ∧ e.production ≠ 0 ∧ e.dot = 0 ∧
      ps[e.production]? = some production := by
  unfold predicted at h
  split at h
  next name hnext =>
    obtain ⟨number, hnumber, rfl⟩ := List.mem_map.1 h
    obtain ⟨-, hfilter⟩ := List.mem_filter.1 hnumber
    simp only [Bool.and_eq_true, bne_iff_ne, ne_eq, Option.any_eq_true, beq_iff_eq] at hfilter
    obtain ⟨hne, production, hproduction, rfl⟩ := hfilter
    exact ⟨production, hnext, hne, rfl, hproduction⟩
  next => cases h

/-- What a set satisfies and predictions preserve holds of the closed set. -/
theorem closeFrom_induction {P : Dotted → Prop} (hpredicted : ∀ d e, P d → e ∈ predicted ps d → P e)
    (done todo : List Dotted) (h : ∀ d ∈ done ++ todo, P d) :
    ∀ d ∈ closeFrom ps done todo, P d := by
  fun_induction closeFrom ps done todo with
  | case1 done => simpa using h
  | case2 done d rest ih =>
    apply ih
    intro e he
    have hd : P d := h d (by simp)
    simp only [List.mem_append, List.mem_cons, List.not_mem_nil, or_false, List.mem_filter] at he
    rcases he with (he | rfl) | he | ⟨he, -⟩
    · exact h e (by simp [he])
    · exact hd
    · exact h e (by simp [he])
    · exact hpredicted d e hd he

/-! ### Kernels by numbers -/

/-- The dotted productions in the kernel of the state with the given number. -/
def InKernel (ps : Array Production) (number : Nat) (d : Dotted) : Prop :=
  ∃ state, (states ps)[number]? = some state ∧ d ∈ state.kernel

theorem InKernel.holds (h : InKernel ps q d) : Holds ps q d := by
  obtain ⟨state, hstate, hd⟩ := h
  refine ⟨state, hstate, ?_⟩
  rw [(states_linked state (List.mem_of_getElem? hstate)).closure_eq]
  exact mem_closure_of_mem hd

/-- What the kernel of a state satisfies and predictions preserve holds of the whole state. -/
theorem Holds.induction {P : Dotted → Prop} (hkernel : ∀ d, InKernel ps q d → P d)
    (hpredicted : ∀ d e, Holds ps q d → P d → e ∈ Automaton.predicted ps d → P e)
    (h : Holds ps q d) : P d := by
  obtain ⟨state, hstate, hd⟩ := h
  have hclosure := (states_linked state (List.mem_of_getElem? hstate)).closure_eq
  have hfirst : ∀ d ∈ [] ++ state.kernel, d ∈ state.closure ∧ P d := by
    intro d hd
    refine ⟨?_, hkernel d ⟨state, hstate, hd⟩⟩
    rw [hclosure]
    exact mem_closure_of_mem hd
  have hstep : ∀ d e, (d ∈ state.closure ∧ P d) → e ∈ Automaton.predicted ps d →
      e ∈ state.closure ∧ P e := by
    rintro d e ⟨hd, hP⟩ he
    refine ⟨?_, hpredicted d e ⟨state, hstate, hd⟩ hP he⟩
    rw [hclosure] at hd ⊢
    exact predicted_mem_closure hd he
  rw [hclosure] at hd
  exact (closeFrom_induction hstep [] state.kernel hfirst d hd).2

/-- A member of a state is in its kernel or is predicted by another member. -/
theorem Holds.cases (h : Holds ps q d) :
    InKernel ps q d ∨ ∃ e, Holds ps q e ∧ d ∈ Automaton.predicted ps e := by
  refine h.induction
    (P := fun d => InKernel ps q d ∨ ∃ e, Holds ps q e ∧ d ∈ Automaton.predicted ps e) ?_ ?_
  · intro d hkernel
    exact .inl hkernel
  · intro d e hd _ he
    exact .inr ⟨d, hd, he⟩

/-- The kernel of the first state is the production that starts the automaton. -/
theorem inKernel_zero_iff : InKernel ps 0 d ↔ d = ⟨0, 0⟩ := by
  obtain ⟨state, hstate, hkernel⟩ := exists_state_zero ps
  constructor
  · rintro ⟨state', hstate', hd⟩
    cases hstate.symm.trans hstate'
    rw [hkernel] at hd
    exact List.mem_singleton.1 hd
  · rintro rfl
    exact ⟨state, hstate, by simp [hkernel]⟩

/-- A transition leads to the members of a state that expect its symbol, with their marks moved. -/
theorem Leads.inKernel_iff (h : Leads ps q X next) : InKernel ps next e ↔
    ∃ d, Holds ps q d ∧ nextRule ps d = some X ∧ e = ⟨d.production, d.dot + 1⟩ := by
  obtain ⟨state, hstate, htransition⟩ := h
  have hlinked := states_linked state (List.mem_of_getElem? hstate)
  rw [hlinked.transitions_eq] at htransition
  obtain ⟨move, hmove, heq⟩ := List.mem_map.1 htransition
  obtain ⟨rfl, rfl⟩ := Prod.mk.inj heq
  have hlt := List.idxOf_lt_length_iff.2 (hlinked.known move hmove)
  have hget := List.getElem_idxOf hlt
  rw [List.length_map] at hlt
  rw [List.getElem_map] at hget
  have hkernel : ∀ e, InKernel ps (((states ps).map State.kernel).idxOf move.2) e ↔ e ∈ move.2 := by
    intro e
    constructor
    · rintro ⟨target, htarget, he⟩
      rw [List.getElem?_eq_getElem hlt, Option.some.injEq] at htarget
      rwa [← htarget, hget] at he
    · intro he
      exact ⟨_, List.getElem?_eq_getElem hlt, by rwa [hget]⟩
  rw [hkernel]
  obtain ⟨X, -, rfl⟩ := List.mem_map.1 hmove
  simp only [target, Dotted.mem_sorted, List.mem_map, List.mem_filter, beq_iff_eq]
  constructor
  · rintro ⟨a, ⟨ha, rfl⟩, rfl⟩
    obtain ⟨d, hd, hnext, heq⟩ := mem_advances_iff.1 ha
    exact ⟨d, ⟨state, hstate, hd⟩, hnext, heq⟩
  · rintro ⟨d, ⟨state', hstate', hd⟩, hnext, rfl⟩
    obtain rfl : state' = state := by
      rw [hstate] at hstate'
      exact (Option.some.inj hstate').symm
    exact ⟨(X, ⟨d.production, d.dot + 1⟩), ⟨mem_advances_iff.2 ⟨d, hd, hnext, rfl⟩, rfl⟩, rfl⟩

/-! ### Following marks backwards -/

/-- In the first state all marks stand in front. -/
theorem Holds.dot_eq_zero (h : Holds ps 0 d) : d.dot = 0 := by
  rcases h.cases with hkernel | ⟨e, -, hpredicted⟩
  · rw [inKernel_zero_iff.1 hkernel]
  · obtain ⟨_, _, _, hdot, _⟩ := exists_of_mem_predicted hpredicted
    exact hdot

/-- A mark behind a symbol stood before it in the state that the symbol was read from. -/
theorem Leads.holds_before {number dot : Nat} (h : Leads ps q X next)
    (hd : Holds ps next ⟨number, dot + 1⟩) :
    Holds ps q ⟨number, dot⟩ ∧ nextRule ps ⟨number, dot⟩ = some X := by
  rcases hd.cases with hkernel | ⟨e, -, hpredicted⟩
  · obtain ⟨⟨number', dot'⟩, hbefore, hnext, heq⟩ := h.inKernel_iff.1 hkernel
    simp only [Dotted.mk.injEq, Nat.add_right_cancel_iff] at heq
    obtain ⟨rfl, rfl⟩ := heq
    exact ⟨hbefore, hnext⟩
  · obtain ⟨_, _, _, hdot, _⟩ := exists_of_mem_predicted hpredicted
    cases hdot

/-- What starts the automaton is in the first state only. -/
theorem Leads.not_holds_start (h : Leads ps q X next) : ¬Holds ps next ⟨0, 0⟩ := by
  intro hd
  rcases hd.cases with hkernel | ⟨e, -, hpredicted⟩
  · obtain ⟨d, _, _, heq⟩ := h.inKernel_iff.1 hkernel
    simp at heq
  · obtain ⟨_, _, hne, _⟩ := exists_of_mem_predicted hpredicted
    exact hne rfl

/-- A transition leads to a state with members. -/
theorem Leads.exists_holds_next (h : Leads ps q X next) : ∃ d, Holds ps next d := by
  obtain ⟨d, hd, hnext⟩ := h.exists_holds
  have hkernel := h.inKernel_iff.2 ⟨d, hd, hnext, rfl⟩
  exact ⟨_, hkernel.holds⟩

/-- The states that a stack can be in: the first, and those that a transition leads to. -/
def Entered (ps : Array Production) (q : Nat) : Prop := q = 0 ∨ ∃ before X, Leads ps before X q

theorem Entered.exists_holds (h : Entered ps q) : ∃ d, Holds ps q d := by
  rcases h with rfl | ⟨before, X, hleads⟩
  · exact ⟨_, holds_zero⟩
  · exact hleads.exists_holds_next

/-- A production with the mark in front is there because its item is expected. -/
theorem Holds.exists_expecting {number : Nat} {production : Production}
    (h : Holds ps q ⟨number, 0⟩) (hq : Entered ps q) (hnumber : number ≠ 0)
    (hproduction : ps[number]? = some production) :
    ∃ d, Holds ps q d ∧ nextRule ps d = some (.item production.item) := by
  rcases h.cases with hkernel | ⟨e, he, hpredicted⟩
  · exfalso
    rcases hq with rfl | ⟨before, X, hleads⟩
    · have heq := inKernel_zero_iff.1 hkernel
      simp only [Dotted.mk.injEq, and_true] at heq
      exact hnumber heq
    · obtain ⟨d, _, _, heq⟩ := hleads.inKernel_iff.1 hkernel
      simp at heq
  · obtain ⟨production', hnext, -, -, hproduction'⟩ := exists_of_mem_predicted hpredicted
    obtain rfl : production' = production := by
      rw [hproduction] at hproduction'
      exact (Option.some.inj hproduction').symm
    exact ⟨e, he, hnext⟩

end BranchLR.Automaton
