import BranchLR.Proofs.Automaton.Kernels
import BranchLR.Proofs.Automaton.Rounds
import BranchLR.Proofs.Search.Completeness
import Mathlib.Computability.EpsilonNFA

/-!
# The canonical collection

Single dotted productions make a nondeterministic automaton: reading a symbol moves the mark over
it, and without reading anything the productions of an expected item may be begun. The states of a
table's automaton are what a subset construction makes of it. Reading symbols from the first state
on leads somewhere exactly when some dotted production can be reached by reading them, and the
closed set of the state it leads to holds the dotted productions that can be reached, and no others.
The rows of the table follow the transitions, and their candidates follow the closed sets.
-/

namespace BranchLR

section Library

variable [RegexLibrary]

namespace Automaton

variable {ps : Array Production} {d e : Dotted} {X : Rule} {q next : Nat} {w : List Rule}

/-- The automaton of single dotted productions. -/
def dottedAutomaton (ps : Array Production) : εNFA Rule Dotted where
  step d
    | some X => {e | nextRule ps d = some X ∧ e = ⟨d.production, d.dot + 1⟩}
    | none => {e | ∃ production, nextRule ps d = some (.item production.item) ∧
        e.production ≠ 0 ∧ e.dot = 0 ∧ ps[e.production]? = some production}
  start := {⟨0, 0⟩}
  accept := {d | d.production = 0 ∧ nextRule ps d = none}

/-- The state that reading symbols leads to from the first state on. -/
inductive Enters (ps : Array Production) : List Rule → Nat → Prop
  | start : Enters ps [] 0
  | read {w : List Rule} {q next : Nat} {X : Rule} (henters : Enters ps w q)
      (hleads : Leads ps q X next) : Enters ps (w ++ [X]) next

theorem Enters.entered (h : Enters ps w q) : Entered ps q := by
  cases h with
  | start => exact .inl rfl
  | read _ hleads => exact .inr ⟨_, _, hleads⟩

/-! ### Closed sets -/

/-- A state holds what can be reached from its kernel without reading anything. -/
theorem holds_iff_mem_εClosure :
    Holds ps q d ↔ d ∈ (dottedAutomaton ps).εClosure {e | InKernel ps q e} := by
  constructor
  · intro h
    refine h.induction (P := (· ∈ (dottedAutomaton ps).εClosure {e | InKernel ps q e})) ?_ ?_
    · intro d hd
      exact εNFA.εClosure.base d hd
    · intro d e _ hd he
      exact εNFA.εClosure.step d e (exists_of_mem_predicted he) hd
  · intro h
    induction h with
    | base d hd => exact hd.holds
    | step d e he _ ih =>
      obtain ⟨production, hnext, hnumber, hdot, hproduction⟩ := he
      have hpredicted := ih.predicted hnext hnumber hproduction
      rwa [← hdot] at hpredicted

/-- A transition is determined by its symbol. -/
theorem Leads.unique {other : Nat} (h : Leads ps q X next) (h' : Leads ps q X other) :
    next = other := by
  obtain ⟨state, hstate, hnext⟩ := h
  obtain ⟨state', hstate', hother⟩ := h'
  obtain rfl : state = state' := by
    rw [hstate] at hstate'
    exact Option.some.inj hstate'
  rw [(states_linked state (List.mem_of_getElem? hstate)).transitions_eq] at hnext hother
  obtain ⟨move, hmove, heq⟩ := List.mem_map.1 hnext
  obtain ⟨move', hmove', heq'⟩ := List.mem_map.1 hother
  obtain ⟨Y, -, rfl⟩ := List.mem_map.1 hmove
  obtain ⟨Z, -, rfl⟩ := List.mem_map.1 hmove'
  obtain ⟨rfl, rfl⟩ := Prod.mk.inj heq
  obtain ⟨rfl, rfl⟩ := Prod.mk.inj heq'
  rfl

/-! ### Reading symbols -/

/-- The state that a word leads to holds exactly the dotted productions that can be reached by
reading the word. -/
theorem Enters.holds_iff (h : Enters ps w q) (d : Dotted) :
    Holds ps q d ↔ d ∈ (dottedAutomaton ps).eval w := by
  induction h generalizing d with
  | start =>
    have hkernel : {e | InKernel ps 0 e} = {⟨0, 0⟩} := by
      ext e
      exact inKernel_zero_iff
    rw [holds_iff_mem_εClosure, hkernel]
    rfl
  | @read w q next X henters hleads ih =>
    rw [holds_iff_mem_εClosure, εNFA.eval_append_singleton, εNFA.mem_stepSet_iff,
      εNFA.mem_εClosure_iff_exists]
    constructor
    · rintro ⟨e, he, hd⟩
      obtain ⟨before, hbefore, hnext, rfl⟩ := hleads.inKernel_iff.1 he
      refine ⟨before, (ih before).1 hbefore, ?_⟩
      exact (εNFA.mem_εClosure_iff_exists _).2 ⟨_, ⟨hnext, rfl⟩, hd⟩
    · rintro ⟨before, hbefore, hd⟩
      obtain ⟨e, ⟨hnext, rfl⟩, hd⟩ := (εNFA.mem_εClosure_iff_exists _).1 hd
      exact ⟨_, hleads.inKernel_iff.2 ⟨before, (ih before).2 hbefore, hnext, rfl⟩, hd⟩

/-- A word leads to some state exactly when some dotted production can be reached by reading it. -/
theorem exists_enters_iff (w : List Rule) :
    (∃ q, Enters ps w q) ↔ ((dottedAutomaton ps).eval w).Nonempty := by
  constructor
  · rintro ⟨q, hq⟩
    obtain ⟨d, hd⟩ := hq.entered.exists_holds
    exact ⟨d, (hq.holds_iff d).1 hd⟩
  · induction w using List.reverseRecOn with
    | nil =>
      rintro -
      exact ⟨0, .start⟩
    | append_singleton w X ih =>
      rintro ⟨d, hd⟩
      rw [εNFA.eval_append_singleton, εNFA.mem_stepSet_iff] at hd
      obtain ⟨e, he, hd⟩ := hd
      obtain ⟨q, hq⟩ := ih ⟨e, he⟩
      obtain ⟨moved, ⟨hnext, -⟩, -⟩ := (εNFA.mem_εClosure_iff_exists _).1 hd
      obtain ⟨next, hleads, -⟩ := ((hq.holds_iff e).2 he).exists_leads hnext
      exact ⟨next, .read hq hleads⟩

/-! ### Complete dotted productions -/

/-- In a state that can be entered no mark stands behind the end of its production. -/
theorem Holds.dot_le {production : Production} (h : Holds ps q d) (hq : Entered ps q)
    (hproduction : ps[d.production]? = some production) : d.dot ≤ production.rules.length := by
  rcases h.cases with hkernel | ⟨e, -, hpredicted⟩
  · rcases hq with rfl | ⟨before, X, hleads⟩
    · rw [inKernel_zero_iff.1 hkernel]
      exact Nat.zero_le _
    · obtain ⟨e, -, hnext, rfl⟩ := hleads.inKernel_iff.1 hkernel
      exact dot_lt_length (d := e) hproduction hnext
  · obtain ⟨_, _, _, hdot, _⟩ := exists_of_mem_predicted hpredicted
    omega

/-- The mark of a complete dotted production stands at the end. -/
theorem Holds.nextRule_eq_none_iff {production : Production} (h : Holds ps q d)
    (hq : Entered ps q) (hproduction : ps[d.production]? = some production) :
    nextRule ps d = none ↔ d.dot = production.rules.length := by
  have hle := h.dot_le hq hproduction
  simp only [nextRule, hproduction, Option.bind_some, List.getElem?_eq_none_iff]
  omega

end Automaton

namespace BuiltTable

open Automaton

variable {ps : Array Production} {start : String} {q next : Nat} {X : Rule} {actions : List Action}

/-! ### Candidates -/

/-- The candidates that the dotted productions of a state call for, each once: to go on from the
state if it has a transition, to reduce by the productions that are complete in it, and to accept if
the production that starts the automaton is. -/
structure CallsFor (ps : Array Production) (q : Nat) (actions : List Action) : Prop where
  nodup : actions.Nodup
  shift_iff : ∀ row, .shift row ∈ actions ↔ row = q ∧ ∃ X next, Leads ps q X next
  reduce_iff : ∀ production, .reduce production ∈ actions ↔ ∃ d, Holds ps q d ∧
    d.production ≠ 0 ∧ ps[d.production]? = some production ∧ d.dot = production.rules.length
  accept_iff : .accept ∈ actions ↔ Holds ps q ⟨0, 1⟩

/-- Different numbers besides zero stand for different productions. -/
theorem numbered_inj {productions : List Production} (h : productions.Nodup) {i j : Nat}
    {production : Production} (hi : i ≠ 0) (hj : j ≠ 0)
    (hgeti : (numbered start productions)[i]? = some production)
    (hgetj : (numbered start productions)[j]? = some production) : i = j := by
  obtain ⟨i, rfl⟩ := Nat.exists_eq_succ_of_ne_zero hi
  obtain ⟨j, rfl⟩ := Nat.exists_eq_succ_of_ne_zero hj
  have hgeti : productions[i]? = some production := by simpa [numbered] using hgeti
  have hgetj : productions[j]? = some production := by simpa [numbered] using hgetj
  have hlt := (List.getElem?_eq_some_iff.1 hgeti).1
  exact congrArg Nat.succ ((List.getElem?_inj hlt h).1 (hgeti.trans hgetj.symm))

/-- The reductions of a state that can be entered are different from each other. -/
theorem nodup_reductions {productions : List Production} (h : productions.Nodup)
    (hq : Entered (numbered start productions) q) {state : State}
    (hstate : (states (numbered start productions))[q]? = some state) :
    (reductions (numbered start productions) state).Nodup := by
  have hnodup := nodup_closure (List.mem_of_getElem? hstate)
  unfold reductions
  rw [List.Nodup, List.pairwise_filterMap]
  refine List.Pairwise.imp_of_mem ?_ hnodup
  intro d e hd he hne a ha b hb hab
  subst hab
  split at ha
  next hcomplete =>
    split at hb
    next hcomplete' =>
      obtain ⟨production, hproduction, rfl⟩ := Option.map_eq_some_iff.1 ha
      obtain ⟨production', hproduction', heq⟩ := Option.map_eq_some_iff.1 hb
      obtain rfl := Action.reduce.inj heq
      -- Both marks stand at the end of the same production.
      have hnumber := numbered_inj h hcomplete.1 hcomplete'.1 hproduction hproduction'
      have hholds : Holds (numbered start productions) q d := ⟨state, hstate, hd⟩
      have hholds' : Holds (numbered start productions) q e := ⟨state, hstate, he⟩
      have hdot := (hholds.nextRule_eq_none_iff hq hproduction).1
        ((isComplete_iff _).1 hcomplete.2)
      have hdot' := (hholds'.nextRule_eq_none_iff hq hproduction').1
        ((isComplete_iff _).1 hcomplete'.2)
      apply hne
      obtain ⟨i, k⟩ := d
      obtain ⟨j, l⟩ := e
      simp only at hnumber hdot hdot'
      rw [hnumber, hdot, hdot']
    next => cases hb
  next => cases ha

/-- In a state that can be entered no candidate stands twice. -/
theorem nodup_following {productions : List Production} (h : productions.Nodup)
    (hq : Entered (numbered start productions) q) :
    (following (numbered start productions) q).Nodup := by
  obtain ⟨-, state, hstate, -⟩ := hq.exists_holds
  have hreduction : ∀ a ∈ reductions (numbered start productions) state,
      ∃ production, a = .reduce production := by
    intro a ha
    obtain ⟨_, _, _, _, production, _, rfl⟩ := mem_reductions.1 ha
    exact ⟨production, rfl⟩
  have hshift : ∀ a ∈ (if state.transitions.isEmpty then [] else [Action.shift q]),
      a = .shift q := by
    split <;> simp
  have haccept : ∀ a ∈ (if accepts (numbered start productions) state then [Action.accept] else []),
      a = .accept := by
    split <;> simp
  rw [following_of_state hstate, List.nodup_append, List.nodup_append]
  refine ⟨⟨?_, nodup_reductions h hq hstate, ?_⟩, ?_, ?_⟩
  · split <;> simp
  · rintro a ha b hb rfl
    obtain ⟨production, heq⟩ := hreduction a hb
    cases heq.symm.trans (hshift a ha)
  · split <;> simp
  · rintro a ha b hb rfl
    rcases List.mem_append.1 ha with ha | ha
    · cases (hshift a ha).symm.trans (haccept a hb)
    · obtain ⟨production, heq⟩ := hreduction a ha
      cases heq.symm.trans (haccept a hb)

/-- In a state that can be entered the candidates are those that the state calls for. -/
theorem callsFor_following {productions : List Production} (h : productions.Nodup)
    (hq : Entered (numbered start productions) q) :
    CallsFor (numbered start productions) q (following (numbered start productions) q) := by
  have hzero : (numbered start productions)[0]? = some ⟨"", [.item start]⟩ := by simp [numbered]
  refine ⟨nodup_following h hq, ?_, ?_, ?_⟩
  · intro row
    constructor
    · exact exists_leads_of_shift
    · rintro ⟨rfl, X, next, hleads⟩
      obtain ⟨d, hd, hnext⟩ := hleads.exists_holds
      obtain ⟨rest, hrest, -⟩ := following_eq_shift_cons hd hnext
      simp [hrest]
  · intro production
    constructor
    · intro hreduce
      obtain ⟨d, hd, hnumber, hcomplete, hproduction⟩ := exists_holds_of_reduce hreduce
      exact ⟨d, hd, hnumber, hproduction, (hd.nextRule_eq_none_iff hq hproduction).1 hcomplete⟩
    · rintro ⟨d, hd, hnumber, hproduction, hdot⟩
      have hcomplete := (hd.nextRule_eq_none_iff hq hproduction).2 hdot
      exact reduce_mem_following hd hnumber hproduction hcomplete
  · constructor
    · intro haccept
      rcases following_cases haccept with ⟨heq, -⟩ | ⟨_, _, _, _, _, _, heq⟩ |
        ⟨-, ⟨number, dot⟩, hd, rfl, hcomplete⟩
      · cases heq
      · cases heq
      · obtain rfl : dot = 1 := (hd.nextRule_eq_none_iff hq hzero).1 hcomplete
        exact hd
    · intro hd
      exact accept_mem_following hd rfl ((hd.nextRule_eq_none_iff hq hzero).2 rfl)

/-- The candidates under a guard of a row are those of the state that the guard leads to. -/
theorem exists_candidatesFor_iff {r : Nat} :
    (∃ row, (tableOf start ps).row? r = some row ∧
      row.candidatesFor X = some actions) ↔
      ∃ s, Leads ps r X s ∧ actions = following ps s := by
  constructor
  · rintro ⟨row, hrow, hactions⟩
    obtain ⟨entry, hfind, rfl⟩ := Option.map_eq_some_iff.1 hactions
    obtain ⟨s, hleads, hfollowing⟩ := exists_leads_of_row hrow (List.mem_of_find?_eq_some hfind)
    have hguard : entry.1 = X := by simpa using List.find?_some hfind
    exact ⟨s, hguard ▸ hleads, hfollowing⟩
  · rintro ⟨s, hleads, rfl⟩
    obtain ⟨row, hrow, hentry⟩ := exists_row_of_leads start hleads
    refine ⟨row, hrow, ?_⟩
    cases hfind : row.entries.find? fun entry => entry.1 == X with
    | none => simpa using List.find?_eq_none.1 hfind _ hentry
    | some entry =>
      obtain ⟨other, hother, hfollowing⟩ :=
        exists_leads_of_row hrow (List.mem_of_find?_eq_some hfind)
      have hguard : entry.1 = X := by simpa using List.find?_some hfind
      rw [hguard] at hother
      rw [Row.candidatesFor, hfind, Option.map_some, hfollowing, hother.unique hleads]

/-! ### The collection and its table -/

/-- A table whose rows follow the canonical collection of some productions. -/
structure IsCanonical (ps : Array Production) (table : Table) : Prop where
  /-- The exploration ends, after as many rounds as there are states. -/
  explored : (exploreRound ps)^[(states ps).length] ([], [[⟨0, 0⟩]]) = (states ps, [])
  /-- Closing a kernel ends, after as many rounds as the closed set has members. -/
  closed : ∀ state ∈ states ps,
    (closeRound ps)^[state.closure.length] ([], state.kernel) = (state.closure, [])
  length_le : (states ps).length ≤ 2 ^ (places ps).length
  nodup_kernels : ((states ps).map State.kernel).Nodup
  leads_unique : ∀ r X s s', Leads ps r X s → Leads ps r X s' → s = s'
  enters_iff : ∀ w, (∃ s, Enters ps w s) ↔ ((dottedAutomaton ps).eval w).Nonempty
  holds_iff : ∀ w s, Enters ps w s → ∀ d, Holds ps s d ↔ d ∈ (dottedAutomaton ps).eval w
  guard_iff : ∀ r X, (∃ row actions, table.row? r = some row ∧
    row.candidatesFor X = some actions) ↔ ∃ s, Leads ps r X s
  candidates : ∀ r X s row actions, Leads ps r X s → table.row? r = some row →
    row.candidatesFor X = some actions → CallsFor ps s actions

/-- **The canonical collection.** The automaton of a table that is built from a grammar is the
subset construction over the dotted flat productions of the grammar, and the table has a guard for
every transition, with the candidates that the state behind it calls for. -/
theorem isCanonical_of_withStart {g : Grammar} {built : BuiltTable}
    (h : withStart g start = .ok built) :
    built.productions = g.productions ∧
      IsCanonical (numbered start g.productions) built.table := by
  obtain ⟨rfl, -⟩ := eq_of_withStart h
  have hproductions : g.productions.Nodup := nodup_eraseDups _
  have hsize : 0 < (numbered start g.productions).size := by simp [numbered]
  refine ⟨rfl, ?_⟩
  exact
    { explored := iterate_exploreRound_states
      closed := fun state hstate => iterate_closeRound_closure hstate
      length_le := length_states_le hsize
      nodup_kernels := nodup_kernels
      leads_unique := fun r X s s' hs hs' => hs.unique hs'
      enters_iff := exists_enters_iff
      holds_iff := fun w s hs => hs.holds_iff
      guard_iff := by
        intro r X
        constructor
        · rintro ⟨row, actions, hrow, hactions⟩
          obtain ⟨s, hleads, -⟩ := exists_candidatesFor_iff.1 ⟨row, hrow, hactions⟩
          exact ⟨s, hleads⟩
        · rintro ⟨s, hleads⟩
          obtain ⟨row, hrow, hactions⟩ := exists_candidatesFor_iff.2 ⟨s, hleads, rfl⟩
          exact ⟨row, _, hrow, hactions⟩
      candidates := by
        intro r X s row actions hleads hrow hactions
        obtain ⟨s', hleads', rfl⟩ := exists_candidatesFor_iff.1 ⟨row, hrow, hactions⟩
        obtain rfl := hleads.unique hleads'
        exact callsFor_following hproductions (.inr ⟨r, X, hleads⟩) }

end BuiltTable

end Library

namespace BuiltTable

/-- The table of nested openings, in which one state offers to go on and to reduce. -/
theorem isCanonical_of_withStart_nested :
    withStart Problem.nested "S" = .ok Problem.nestedTable ∧
      IsCanonical (numbered "S" Problem.nested.productions) Problem.nestedTable.table :=
  ⟨Problem.withStart_nested, (isCanonical_of_withStart Problem.withStart_nested).2⟩

end BuiltTable

end BranchLR
