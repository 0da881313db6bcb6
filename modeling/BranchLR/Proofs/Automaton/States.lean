import BranchLR.Automaton

/-!
# The states of the automaton

Closing a set of dotted productions adds everything that its members predict. Exploring gives every
state its closed set, and for every symbol that can be read from it a transition to the state that
contains all dotted productions with the mark moved over the symbol.
-/

namespace BranchLR.Automaton

variable [RegexLibrary]

variable {ps : Array Production} {d e : Dotted} {X : Rule}

/-! ### Closed sets -/

/-- Closing keeps what is there. -/
theorem subset_closeFrom (done todo : List Dotted) :
    ∀ d ∈ done ++ todo, d ∈ closeFrom ps done todo := by
  fun_induction closeFrom ps done todo with
  | case1 done => simp
  | case2 done d rest ih =>
    intro e he
    apply ih
    simp only [List.mem_append, List.mem_cons] at he ⊢
    rcases he with he | rfl | he
    · exact .inl (.inl he)
    · exact .inl (.inr (.inl rfl))
    · exact .inr (.inl he)

/-- When the predictions of the finished members are there, closing adds those of all others. -/
theorem closeFrom_closed (done todo : List Dotted)
    (h : ∀ d ∈ done, ∀ e ∈ predicted ps d, e ∈ done ++ todo) :
    ∀ d ∈ closeFrom ps done todo, ∀ e ∈ predicted ps d, e ∈ closeFrom ps done todo := by
  fun_induction closeFrom ps done todo with
  | case1 done => simpa using h
  | case2 done d rest ih =>
    refine ih fun b hb e he => ?_
    simp only [List.mem_append, List.mem_cons, List.not_mem_nil, or_false, List.mem_filter] at *
    by_cases hknown : e ∈ done ∨ e = d ∨ e ∈ rest
    · rcases hknown with hknown | rfl | hknown
      · exact .inl (.inl hknown)
      · exact .inl (.inr rfl)
      · exact .inr (.inl hknown)
    · rcases hb with hb | rfl
      · exact absurd (h b hb e he) hknown
      · exact .inr (.inr ⟨he, by simpa using hknown⟩)

/-- The kernel of a state is part of its closed set. -/
theorem mem_closure_of_mem {kernel : List Dotted} (h : d ∈ kernel) : d ∈ closure ps kernel :=
  subset_closeFrom [] kernel d h

/-- A closed set contains what its members predict. -/
theorem predicted_mem_closure {kernel : List Dotted} (hd : d ∈ closure ps kernel)
    (he : e ∈ predicted ps d) : e ∈ closure ps kernel :=
  closeFrom_closed [] kernel (by simp) d hd e he

/-- The productions of the item behind the mark are predicted. -/
theorem predicted_of_nextRule {number : Nat} {production : Production}
    (hnext : nextRule ps d = some (.item production.item)) (hnumber : number ≠ 0)
    (hproduction : ps[number]? = some production) : ⟨number, 0⟩ ∈ predicted ps d := by
  have hlt := (Array.getElem?_eq_some_iff.1 hproduction).1
  simp only [predicted, hnext, productionsOf, List.mem_map, List.mem_filter, List.mem_range]
  exact ⟨number, ⟨hlt, by simp [hnumber, hproduction]⟩, rfl⟩

/-! ### Moves -/

theorem mem_advances_iff {items : List Dotted} {a : Rule × Dotted} :
    a ∈ advances ps items ↔
      ∃ d ∈ items, nextRule ps d = some a.1 ∧ a.2 = ⟨d.production, d.dot + 1⟩ := by
  obtain ⟨X, e⟩ := a
  simp only [advances, List.mem_filterMap, Option.map_eq_some_iff, Prod.mk.injEq]
  constructor
  · rintro ⟨d, hd, X', hnext, rfl, rfl⟩
    exact ⟨d, hd, hnext, rfl⟩
  · rintro ⟨d, hd, hnext, rfl⟩
    exact ⟨d, hd, X, hnext, rfl, rfl⟩

/-- A move reads a symbol that some member expects. -/
theorem exists_of_mem_moves {items : List Dotted} {move : Rule × List Dotted}
    (h : move ∈ moves ps items) : ∃ d ∈ items, nextRule ps d = some move.1 := by
  obtain ⟨X, hX, rfl⟩ := List.mem_map.1 h
  obtain ⟨a, ha, rfl⟩ := List.mem_map.1 (List.mem_eraseDups.1 hX)
  obtain ⟨d, hd, hnext, -⟩ := mem_advances_iff.1 ha
  exact ⟨d, hd, hnext⟩

/-- Every symbol that a member expects can be read, and leads to that member with its mark moved. -/
theorem exists_move {items : List Dotted} (hd : d ∈ items) (hnext : nextRule ps d = some X) :
    ∃ kernel, (X, kernel) ∈ moves ps items ∧ ⟨d.production, d.dot + 1⟩ ∈ kernel := by
  have ha : (X, ⟨d.production, d.dot + 1⟩) ∈ advances ps items :=
    mem_advances_iff.2 ⟨d, hd, hnext, rfl⟩
  refine ⟨target (advances ps items) X, List.mem_map.2 ⟨X, ?_, rfl⟩, ?_⟩
  · exact List.mem_eraseDups.2 (List.mem_map.2 ⟨_, ha, rfl⟩)
  · rw [target, Dotted.mem_sorted]
    exact List.mem_map.2 ⟨_, List.mem_filter.2 ⟨ha, by simp⟩, rfl⟩

/-! ### Exploration -/

/-- The state is the one of its kernel, and its transitions lead to the kernels of a list by their
numbers in the list. -/
structure Linked (ps : Array Production) (known : List (List Dotted)) (state : State) : Prop where
  closure_eq : state.closure = closure ps state.kernel
  transitions_eq : state.transitions =
    (moves ps state.closure).map fun move => (move.1, known.idxOf move.2)
  known : ∀ move ∈ moves ps state.closure, move.2 ∈ known

/-- Numbers do not change when more kernels are added behind the others. -/
theorem Linked.append {known : List (List Dotted)} {state : State} (h : Linked ps known state)
    (more : List (List Dotted)) : Linked ps (known ++ more) state := by
  refine ⟨h.closure_eq, ?_, fun move hmove => List.mem_append_left _ (h.known move hmove)⟩
  rw [h.transitions_eq]
  refine List.map_congr_left fun move hmove => ?_
  rw [List.idxOf_append, if_pos (h.known move hmove)]

/-- The fresh kernels make all kernels known that a set of moves leads to. -/
theorem mem_append_freshTargets {known : List (List Dotted)} {targets : List (Rule × List Dotted)}
    {move : Rule × List Dotted} (h : move ∈ targets) :
    move.2 ∈ known ++ freshTargets known targets := by
  by_cases hknown : move.2 ∈ known
  · exact List.mem_append_left _ hknown
  · refine List.mem_append_right _ (List.mem_eraseDups.2 (List.mem_filter.2 ⟨?_, ?_⟩))
    · exact List.mem_map.2 ⟨move, h, rfl⟩
    · simpa using hknown

/-- Exploring links every state to all others, and keeps the numbers that have been given. -/
theorem explore_linked (done : List State) (todo : List (List Dotted))
    (h : ∀ state ∈ done, Linked ps (kernels done todo) state) :
    (∀ state ∈ explore ps done todo, Linked ps ((explore ps done todo).map State.kernel) state) ∧
      kernels done todo <+: (explore ps done todo).map State.kernel := by
  fun_induction explore ps done todo with
  | case1 done => simpa [kernels] using h
  | case2 done kernel rest known items targets fresh ih =>
    have hkernels : kernels (done ++ [stateOf (known ++ fresh) kernel items targets])
        (rest ++ fresh) = known ++ fresh := by
      simp [kernels, stateOf, known]
    rw [hkernels] at ih
    obtain ⟨hlinked, hprefix⟩ := ih fun state hstate => by
      rcases List.mem_append.1 hstate with hstate | hstate
      · exact (h state hstate).append fresh
      · obtain rfl := List.mem_singleton.1 hstate
        exact ⟨rfl, rfl, fun move hmove => mem_append_freshTargets hmove⟩
    exact ⟨hlinked, (List.prefix_append known fresh).trans hprefix⟩

/-! ### The states by their numbers -/

/-- The dotted productions in the closed set of the state with the given number. -/
def Holds (ps : Array Production) (number : Nat) (d : Dotted) : Prop :=
  ∃ state, (states ps)[number]? = some state ∧ d ∈ state.closure

/-- The state of the first number reads a symbol into the state of the second. -/
def Leads (ps : Array Production) (number : Nat) (X : Rule) (next : Nat) : Prop :=
  ∃ state, (states ps)[number]? = some state ∧ (X, next) ∈ state.transitions

theorem states_linked : ∀ state ∈ states ps, Linked ps ((states ps).map State.kernel) state :=
  (explore_linked [] [[⟨0, 0⟩]] (by simp)).1

/-- The kernel of the first state is the production that starts the automaton. -/
theorem exists_state_zero (ps : Array Production) :
    ∃ state, (states ps)[0]? = some state ∧ state.kernel = [⟨0, 0⟩] := by
  have hprefix : kernels [] [[⟨0, 0⟩]] <+: (states ps).map State.kernel :=
    (explore_linked [] [[⟨0, 0⟩]] (by simp)).2
  obtain ⟨more, hmore⟩ := hprefix
  have hkernel : ((states ps).map State.kernel)[0]? = some [⟨0, 0⟩] := by
    rw [← hmore]
    rfl
  rw [List.getElem?_map, Option.map_eq_some_iff] at hkernel
  exact hkernel

/-- The first state begins with the production that starts the automaton. -/
theorem holds_zero : Holds ps 0 ⟨0, 0⟩ := by
  obtain ⟨state, hstate, hkernel⟩ := exists_state_zero ps
  refine ⟨state, hstate, ?_⟩
  rw [(states_linked state (List.mem_of_getElem? hstate)).closure_eq]
  exact mem_closure_of_mem (by simp [hkernel])

/-- What a state expects it predicts. -/
theorem Holds.predicted {q number : Nat} {production : Production} (h : Holds ps q d)
    (hnext : nextRule ps d = some (.item production.item)) (hnumber : number ≠ 0)
    (hproduction : ps[number]? = some production) : Holds ps q ⟨number, 0⟩ := by
  obtain ⟨state, hstate, hd⟩ := h
  have hclosure := (states_linked state (List.mem_of_getElem? hstate)).closure_eq
  rw [hclosure] at hd
  refine ⟨state, hstate, ?_⟩
  rw [hclosure]
  exact predicted_mem_closure hd (predicted_of_nextRule hnext hnumber hproduction)

/-- A transition is taken for a symbol that is expected. -/
theorem Leads.exists_holds {q next : Nat} (h : Leads ps q X next) :
    ∃ d, Holds ps q d ∧ nextRule ps d = some X := by
  obtain ⟨state, hstate, htransition⟩ := h
  rw [(states_linked state (List.mem_of_getElem? hstate)).transitions_eq] at htransition
  obtain ⟨move, hmove, heq⟩ := List.mem_map.1 htransition
  obtain ⟨rfl, -⟩ := Prod.mk.inj heq
  obtain ⟨d, hd, hnext⟩ := exists_of_mem_moves hmove
  exact ⟨d, ⟨state, hstate, hd⟩, hnext⟩

/-- Reading an expected symbol leads to a state with the mark moved over it. -/
theorem Holds.exists_leads {q : Nat} (h : Holds ps q d) (hnext : nextRule ps d = some X) :
    ∃ next, Leads ps q X next ∧ Holds ps next ⟨d.production, d.dot + 1⟩ := by
  obtain ⟨state, hstate, hd⟩ := h
  have hlinked := states_linked state (List.mem_of_getElem? hstate)
  obtain ⟨kernel, hmove, hkernel⟩ := exists_move hd hnext
  have hknown := hlinked.known _ hmove
  refine ⟨((states ps).map State.kernel).idxOf kernel, ⟨state, hstate, ?_⟩, ?_⟩
  · rw [hlinked.transitions_eq]
    exact List.mem_map.2 ⟨_, hmove, rfl⟩
  · have hlt := List.idxOf_lt_length_iff.2 hknown
    have hget := List.getElem_idxOf hlt
    rw [List.length_map] at hlt
    rw [List.getElem_map] at hget
    refine ⟨_, List.getElem?_eq_getElem hlt, ?_⟩
    rw [(states_linked _ (List.getElem_mem hlt)).closure_eq, hget]
    exact mem_closure_of_mem hkernel

end BranchLR.Automaton
