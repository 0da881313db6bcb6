import BranchLR.BuiltTable
import BranchLR.Proofs.Automaton.States
import BranchLR.Proofs.Flattening.Flat
import BranchLR.Proofs.Search.Safety

/-!
# Tables that follow an automaton

The table of an automaton offers in every state what the dotted productions of the state call for:
to go on when one of them expects a symbol, to reduce by those that are complete, and to accept when
the one that starts the automaton is. Such a table keeps its promises when the productions are flat.
-/

namespace BranchLR

variable [RegexLibrary]

/-- A rule behind a mark is a rule of its production. -/
theorem Automaton.exists_of_nextRule {ps : Array Production} {d : Dotted} {X : Rule}
    (h : nextRule ps d = some X) :
    ∃ production, ps[d.production]? = some production ∧ production.rules[d.dot]? = some X :=
  Option.bind_eq_some_iff.1 h

namespace BuiltTable

open Automaton

variable {ps : Array Production} {start : String} {q next : Nat} {d : Dotted} {X : Rule}
  {production : Production}

/-- The candidates in the state with the given number. -/
def following (ps : Array Production) (q : Nat) : List Action :=
  candidates ps (states ps).toArray q

theorem following_of_state {state : State} (h : (states ps)[q]? = some state) :
    following ps q = (if state.transitions.isEmpty then [] else [.shift q]) ++
      reductions ps state ++ if accepts ps state then [.accept] else [] := by
  simp [following, candidates, h]

theorem mem_reductions {state : State} {a : Action} : a ∈ reductions ps state ↔
    ∃ d ∈ state.closure, d.production ≠ 0 ∧ nextRule ps d = none ∧
      ∃ production, ps[d.production]? = some production ∧ a = .reduce production := by
  simp only [reductions, List.mem_filterMap, isComplete_iff]
  constructor
  · rintro ⟨d, hd, h⟩
    split at h
    next hcomplete =>
      obtain ⟨production, hproduction, rfl⟩ := Option.map_eq_some_iff.1 h
      exact ⟨d, hd, hcomplete.1, hcomplete.2, production, hproduction, rfl⟩
    next => cases h
  · rintro ⟨d, hd, hnumber, hcomplete, production, hproduction, rfl⟩
    refine ⟨d, hd, ?_⟩
    rw [if_pos ⟨hnumber, hcomplete⟩, hproduction, Option.map_some]

/-- Every candidate has its reason in the state: to go on, a transition; to reduce, a production that
is complete; and to accept, that the one that starts the automaton is. -/
theorem following_cases {a : Action} (h : a ∈ following ps q) :
    (a = .shift q ∧ ∃ X next, Leads ps q X next) ∨
    (∃ d production, Holds ps q d ∧ d.production ≠ 0 ∧ nextRule ps d = none ∧
      ps[d.production]? = some production ∧ a = .reduce production) ∨
    (a = .accept ∧ ∃ d, Holds ps q d ∧ d.production = 0 ∧ nextRule ps d = none) := by
  cases hstate : (states ps)[q]? with
  | none => simp [following, candidates, hstate] at h
  | some state =>
    rw [following_of_state hstate, List.mem_append, List.mem_append] at h
    rcases h with (h | h) | h
    · split at h
      next => cases h
      next hsome =>
        obtain ⟨⟨X, next⟩, hmem⟩ := List.exists_mem_of_ne_nil _ (by simpa using hsome)
        exact .inl ⟨List.mem_singleton.1 h, X, next, state, hstate, hmem⟩
    · obtain ⟨d, hd, hnumber, hcomplete, production, hproduction, rfl⟩ := mem_reductions.1 h
      exact .inr (.inl ⟨d, production, ⟨state, hstate, hd⟩, hnumber, hcomplete, hproduction, rfl⟩)
    · split at h
      next haccepts =>
        obtain ⟨d, hd, hcomplete⟩ := List.any_eq_true.1 haccepts
        simp only [Bool.and_eq_true, beq_iff_eq, isComplete_iff] at hcomplete
        exact .inr (.inr ⟨List.mem_singleton.1 h, d, ⟨state, hstate, hd⟩, hcomplete⟩)
      next => cases h

/-- What a state reduces by is complete in it. -/
theorem exists_holds_of_reduce (h : .reduce production ∈ following ps q) :
    ∃ d, Holds ps q d ∧ d.production ≠ 0 ∧ nextRule ps d = none ∧
      ps[d.production]? = some production := by
  rcases following_cases h with ⟨heq, -⟩ | ⟨d, _, hd, hnumber, hcomplete, hproduction, heq⟩ | ⟨heq, -⟩
  · cases heq
  · cases heq
    exact ⟨d, hd, hnumber, hcomplete, hproduction⟩
  · cases heq

/-- A state that goes on does so from its own row, and has a transition. -/
theorem exists_leads_of_shift {row : Nat} (h : .shift row ∈ following ps q) :
    row = q ∧ ∃ X next, Leads ps q X next := by
  rcases following_cases h with ⟨heq, hleads⟩ | ⟨_, _, _, _, _, _, heq⟩ | ⟨heq, -⟩
  · exact ⟨Action.shift.inj heq, hleads⟩
  · cases heq
  · cases heq

/-! ### What a state calls for -/

/-- A state that expects a symbol goes on from its own row, and the other candidates name no row. -/
theorem following_eq_shift_cons (h : Holds ps q d) (hnext : nextRule ps d = some X) :
    ∃ rest, following ps q = .shift q :: rest ∧ ∀ a ∈ rest, a.row? = none := by
  obtain ⟨next, ⟨state, hstate, htransition⟩, -⟩ := h.exists_leads hnext
  have hsome : state.transitions.isEmpty = false := by
    simpa using List.ne_nil_of_mem htransition
  refine ⟨_, by rw [following_of_state hstate, hsome]; rfl, fun a ha => ?_⟩
  rcases List.mem_append.1 ha with ha | ha
  · obtain ⟨_, _, _, _, _, _, rfl⟩ := mem_reductions.1 ha
    rfl
  · split at ha
    · obtain rfl := List.mem_singleton.1 ha
      rfl
    · cases ha

/-- A state reduces by the productions that are complete in it. -/
theorem reduce_mem_following (h : Holds ps q d) (hnumber : d.production ≠ 0)
    (hproduction : ps[d.production]? = some production) (hcomplete : nextRule ps d = none) :
    .reduce production ∈ following ps q := by
  obtain ⟨state, hstate, hd⟩ := h
  rw [following_of_state hstate]
  refine List.mem_append_left _ (List.mem_append_right _ (mem_reductions.2 ?_))
  exact ⟨d, hd, hnumber, hcomplete, production, hproduction, rfl⟩

/-- A state accepts when the production that starts the automaton is complete in it. -/
theorem accept_mem_following (h : Holds ps q d) (hnumber : d.production = 0)
    (hcomplete : nextRule ps d = none) : .accept ∈ following ps q := by
  obtain ⟨state, hstate, hd⟩ := h
  have haccepts : accepts ps state = true := by
    simp only [accepts, List.any_eq_true]
    exact ⟨d, hd, by simp [hnumber, hcomplete]⟩
  rw [following_of_state hstate, if_pos haccepts]
  exact List.mem_append_right _ List.mem_cons_self

/-- Every dotted production calls for something. -/
theorem following_ne_nil (h : Holds ps q d) (hproduction : ps[d.production]? = some production) :
    following ps q ≠ [] := by
  cases hnext : nextRule ps d with
  | some X =>
    obtain ⟨rest, hrest, -⟩ := following_eq_shift_cons h hnext
    simp [hrest]
  | none =>
    by_cases hnumber : d.production = 0
    · exact List.ne_nil_of_mem (accept_mem_following h hnumber hnext)
    · exact List.ne_nil_of_mem (reduce_mem_following h hnumber hproduction hnext)

/-! ### The table of a grammar -/

/-- The table of an automaton. -/
def tableOf (start : String) (ps : Array Production) : Table :=
  .ofRows (following ps 0) (rowsOf ps (states ps).toArray) start

/-- A table is built from an item that is no token, and follows the automaton of the flat productions
of its grammar. -/
theorem eq_of_withStart {g : Grammar} {built : BuiltTable} (h : withStart g start = .ok built) :
    built = ⟨following (numbered start g.productions) 0, rowsOf (numbered start g.productions)
        (states (numbered start g.productions)).toArray, start, g.productions⟩ ∧
      g.tokenItem? start = none := by
  unfold withStart at h
  split at h
  next => cases h
  next item hfind =>
    split at h
    next => cases h
    next hitem =>
      dsimp only at h
      split at h
      next => cases h
      next =>
        cases h
        exact ⟨rfl, by simp [Grammar.tokenItem?, hfind, hitem]⟩

/-! ### The rows of the table -/

/-- A row follows the transitions of its state. -/
theorem row?_tableOf (start : String) (ps : Array Production) (q : Nat) :
    (tableOf start ps).row? q = (states ps)[q]?.map fun state =>
      ⟨state.transitions.map fun edge => (edge.1, following ps edge.2)⟩ := by
  simp [tableOf, Table.ofRows, rowsOf, following]

/-- The row of a state has a guard for every transition. -/
theorem exists_row_of_leads (start : String) (h : Leads ps q X next) :
    ∃ row, (tableOf start ps).row? q = some row ∧ (X, following ps next) ∈ row.entries := by
  obtain ⟨state, hstate, htransition⟩ := h
  rw [row?_tableOf, hstate]
  exact ⟨_, rfl, List.mem_map.2 ⟨(X, next), htransition, rfl⟩⟩

/-- The guards of a row are the transitions of its state. -/
theorem exists_leads_of_row {row : Row} {entry : Rule × List Action}
    (hrow : (tableOf start ps).row? q = some row) (hentry : entry ∈ row.entries) :
    ∃ next, Leads ps q entry.1 next ∧ entry.2 = following ps next := by
  rw [row?_tableOf, Option.map_eq_some_iff] at hrow
  obtain ⟨state, hstate, rfl⟩ := hrow
  obtain ⟨⟨X, next⟩, htransition, rfl⟩ := List.mem_map.1 hentry
  exact ⟨next, ⟨state, hstate, htransition⟩, rfl⟩

/-- Every action of the table is offered in some state. -/
theorem exists_following_of_offers {a : Action}
    (h : (tableOf start ps).Offers a) : ∃ q, a ∈ following ps q := by
  cases h with
  | initial hinitial => exact ⟨0, hinitial⟩
  | guarded hrow hentry haction =>
    obtain ⟨next, -, hfollowing⟩ := exists_leads_of_row hrow hentry
    exact ⟨next, hfollowing ▸ haction⟩

/-- The table of flat productions keeps its promises. -/
theorem wellFormed_tableOf (hflat : ∀ production ∈ ps, FlatRules production.rules) :
    (tableOf start ps).WellFormed := by
  refine ⟨fun number hshift => ?_, fun q row hrow entry hentry => ?_,
    fun production hproduction => ?_⟩
  · obtain ⟨q, hq⟩ := exists_following_of_offers hshift
    obtain ⟨rfl, X, next, state, hstate, -⟩ := exists_leads_of_shift hq
    rw [row?_tableOf, hstate]
    rfl
  · obtain ⟨next, hleads, -⟩ := exists_leads_of_row hrow hentry
    obtain ⟨d, -, hnext⟩ := hleads.exists_holds
    obtain ⟨production, hproduction, hrule⟩ := exists_of_nextRule hnext
    exact hflat production (Array.mem_of_getElem? hproduction) _ (List.mem_of_getElem? hrule)
  · obtain ⟨q, hq⟩ := exists_following_of_offers hproduction
    obtain ⟨d, -, -, -, hget⟩ := exists_holds_of_reduce hq
    exact hflat production (Array.mem_of_getElem? hget)

end BuiltTable

end BranchLR
