import BranchLR.Proofs.Automaton.Tables
import BranchLR.Proofs.Search.ChoiceTree

/-!
# States of the automaton in the choice tree

A node of the choice tree is stationed at a state of the automaton when the candidates of the state
stand side by side among those of the top entry, possibly between those of other guards that stand
for the same symbol. Each of them can be selected, and the row that a reduction continues from is
found again because a shift stands before the reductions of its state.
-/

namespace BranchLR

open Automaton BuiltTable

variable [RegexLibrary]

theorem Snapshot.selected_selecting (s : Snapshot) (i : Nat) :
    (s.selecting i).top.selected = s.top.untried[i]? := by
  simp [Snapshot.selecting, Entry.selected, List.head?_drop]

/-- The row of an entry is that of the last shift up to the selected candidate. -/
theorem Snapshot.row?_selecting {s : Snapshot} {i : Nat} (h : i < s.top.untried.length) :
    (s.selecting i).top.row? =
      ((s.top.untried.take (i + 1)).reverse ++ s.top.tried).findSome? Action.row? := by
  have htake : s.top.untried.take (i + 1) = s.top.untried.take i ++ [s.top.untried[i]] := by
    rw [List.take_add_one, List.getElem?_eq_getElem h, Option.toList_some]
  rw [Entry.row?, selected_selecting, List.getElem?_eq_getElem h, htake]
  simp only [Snapshot.selecting, Option.toList_some, List.reverse_append, List.reverse_singleton,
    List.cons_append, List.nil_append]

namespace Problem

variable {p : Problem} {ps : Array Production} {s : Snapshot} {q : Nat} {d : Dotted} {X : Rule}

/-- A problem whose table follows the automaton of flat productions, of which number zero leads to
the item that is accepted. -/
structure BuiltFrom (p : Problem) (ps : Array Production) : Prop where
  table_eq : p.table = tableOf p.table.acceptItem ps
  flat : ∀ production ∈ ps, FlatRules production.rules
  start_eq : ps[0]? = some ⟨"", [.item p.table.acceptItem]⟩
  start_not_token : p.grammar.tokenItem? p.table.acceptItem = none

/-- The candidates of a state stand side by side among those of the top entry. -/
def Stationed (ps : Array Production) (q : Nat) (s : Snapshot) : Prop :=
  ∃ before after, s.top.untried = before ++ following ps q ++ after

/-- Every candidate of the state can be selected, and if the state expects a symbol, the row is then
that of the state. -/
theorem Stationed.exists_selecting (h : Stationed ps q s) {a : Action} (ha : a ∈ following ps q) :
    ∃ i, i < s.top.untried.length ∧ (s.selecting i).top.selected = some a ∧
      ∀ d X, Holds ps q d → nextRule ps d = some X → (s.selecting i).top.row? = some q := by
  obtain ⟨before, after, huntried⟩ := h
  obtain ⟨j, hj⟩ := List.getElem?_of_mem ha
  have hjlt := (List.getElem?_eq_some_iff.1 hj).1
  have hlt : before.length + j < s.top.untried.length := by
    rw [huntried, List.length_append, List.length_append]
    omega
  refine ⟨before.length + j, hlt, ?_, fun d X hd hnext => ?_⟩
  · rw [Snapshot.selected_selecting, huntried, List.append_assoc,
      List.getElem?_append_right (by omega), Nat.add_sub_cancel_left, List.getElem?_append_left hjlt,
      hj]
  · -- The selected candidate and those before it end in the shift and a part of the reductions.
    obtain ⟨rest, hrest, hrow⟩ := following_eq_shift_cons hd hnext
    have htake : s.top.untried.take (before.length + j + 1) = before ++ .shift q :: rest.take j := by
      rw [huntried, List.append_assoc, Nat.add_assoc, List.take_length_add_append,
        List.take_append_of_le_length (by omega), hrest, List.take_succ_cons]
    have hnone : (rest.take j).reverse.findSome? Action.row? = none :=
      List.findSome?_eq_none_iff.2 fun a ha =>
        hrow a (List.mem_of_mem_take (List.mem_reverse.1 ha))
    rw [Snapshot.row?_selecting hlt, htake]
    simp only [List.reverse_append, List.reverse_cons, List.append_assoc, List.findSome?_append,
      hnone, Option.none_or]
    rfl

/-- A symbol that a transition is guarded by has the candidates of the next state. -/
theorem BuiltFrom.exists_candidates (hp : p.BuiltFrom ps) {symbol : Symbol}
    (hd : Holds ps q d) (hnext : nextRule ps d = some X)
    (hmatch : X.recognises p.grammar symbol = true) :
    ∃ q' guards actions, Holds ps q' ⟨d.production, d.dot + 1⟩ ∧ p.table.row? q = some guards ∧
      guards.candidates p.grammar symbol = .ok actions ∧ actions ≠ [] ∧
      ∃ before after, actions = before ++ following ps q' ++ after := by
  obtain ⟨q', hleads, hholds⟩ := hd.exists_leads hnext
  obtain ⟨guards, hguards, hentry⟩ := exists_row_of_leads p.table.acceptItem hleads
  obtain ⟨production, hproduction, -⟩ := exists_of_nextRule hnext
  have hflat : ∀ entry ∈ guards.entries, entry.1.isFlat = true :=
    (wellFormed_tableOf hp.flat).flat_guards q guards hguards
  obtain ⟨before, after, hactions⟩ := Row.candidates_contains hflat hentry hmatch
  refine ⟨q', guards, _, hholds, ?_, hactions, ?_, before, after, rfl⟩
  · rw [hp.table_eq]
    exact hguards
  · have hne := following_ne_nil hholds hproduction
    simp [hne]

/-- What is expected is flat. -/
theorem BuiltFrom.isFlat_of_nextRule (hp : p.BuiltFrom ps) (hnext : nextRule ps d = some X) :
    X.isFlat = true := by
  obtain ⟨production, hproduction, hrule⟩ := exists_of_nextRule hnext
  exact hp.flat production (Array.mem_of_getElem? hproduction) X (List.mem_of_getElem? hrule)

end Problem

end BranchLR
