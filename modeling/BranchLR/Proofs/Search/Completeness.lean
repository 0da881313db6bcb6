import BranchLR.Pattern.Engine
import BranchLR.Proofs.Search.DepthFirst
import BranchLR.Proofs.Search.DerivationPaths

/-!
# Rejected inputs have no derivation

A search over a table built from a grammar that stops because nothing is left has been through the
whole choice tree. Every derivation of the input by flat productions would be a path in this tree to
an accepting leaf, so there is none.
-/

namespace BranchLR

open BuiltTable

section Library

variable [RegexLibrary]

/-- A table that has been built follows the automaton of the flat productions of its grammar. -/
theorem Problem.builtFrom_of_withStart {g : Grammar} {start : String} {built : BuiltTable}
    (h : withStart g start = .ok built) (input : TokenStream) (horizon : Nat) :
    Problem.BuiltFrom ⟨g, built.table, input, horizon⟩ (numbered start g.productions) ∧
      built.productions = g.productions ∧ built.table.acceptItem = start := by
  obtain ⟨rfl, htoken⟩ := eq_of_withStart h
  refine ⟨⟨rfl, ?_, rfl, htoken⟩, rfl, rfl⟩
  intro production hproduction
  simp only [numbered, List.mem_toArray, List.mem_cons] at hproduction
  rcases hproduction with rfl | hproduction
  · simp [FlatRules, Rule.isFlat]
  · exact Grammar.flatRules_of_mem_productions hproduction

/-- A production other than the first has a number of its own. -/
theorem BuiltTable.exists_number {start : String} {productions : List Production}
    {production : Production} (h : production ∈ productions) :
    ∃ number, number ≠ 0 ∧ (numbered start productions)[number]? = some production := by
  obtain ⟨i, hi⟩ := List.getElem?_of_mem h
  exact ⟨i + 1, Nat.succ_ne_zero i, by simpa [numbered] using hi⟩

namespace Problem

variable {p : Problem} {ps : Array Production} {limit : Option Nat} {o : Outcome}

/-- No checkpoint gives way in the steps that the limit allows. -/
def KeepsAllWithin (p : Problem) (limit : Option Nat) : Prop :=
  ∀ k r next, (∀ n ∈ limit, k < n) → p.advance k p.start = .running r →
    p.Moves r.current next → next.top.isChoice = true → r.saved.isFull p.horizon = false

/-- A search that ends within its limit takes no steps but those that the limit allows. -/
theorem KeepsAllWithin.keepsAll {n : Nat} (h : p.KeepsAllWithin limit)
    (hended : p.advance n p.start = .ended o) (hn : ∀ m ∈ limit, n ≤ m) : p.KeepsAll := by
  rintro r next ⟨k, hk⟩ hmoves hchoice
  have hkn := lt_of_ended hk hended
  exact h k r next (fun m hm => Nat.lt_of_lt_of_le hkn (hn m hm)) hk hmoves hchoice

theorem KeepsAll.within (h : p.KeepsAll) (limit : Option Nat) : p.KeepsAllWithin limit :=
  fun k r next _ hk => h r next ⟨k, hk⟩

/-- A search over an input that can be derived accepts it if it ends by itself. -/
theorem BuiltFrom.ends_of_derives (hp : p.BuiltFrom ps) {admits : Production → Prop}
    (hadmits : ∀ production, admits production → ∃ number, number ≠ 0 ∧ ps[number]? = some production)
    (hhorizon : 0 < p.horizon) (hkeeps : p.KeepsAllWithin limit) {tree : Node}
    (hderives : Derives p.grammar p.input admits (.item p.table.acceptItem) 0 p.input.size tree)
    (h : p.Ends limit o) :
    (∃ f, o = .ok f) ∨ ∃ n, limit = some n ∧ o = .error (.stepLimit n) := by
  rcases h.exists_ended with hlimit | ⟨n, hn, hended⟩
  · exact .inr hlimit
  · have htable : p.table.WellFormed := by
      rw [hp.table_eq]
      exact wellFormed_tableOf hp.flat
    rcases ends_cases htable hhorizon (hkeeps.keepsAll hended hn) hended with ⟨f, hf, -⟩ |
      ⟨-, hexhausted⟩
    · exact .inl ⟨f, hf⟩
    · obtain ⟨address, s, i, hs, hleaf⟩ := hp.exists_leaf hadmits hderives
      exact absurd hleaf (hexhausted.leafFree address s i _ hs)

/-- **Completeness of rejection.** Over a table built from a grammar, and as long as no checkpoint
gives way, an input that is rejected has no derivation tree of the start item by the flat
productions of the grammar. Equally, a search over an input that has one accepts it, reaches its
step limit, or goes on for ever. -/
theorem underivable_of_rejected {g : Grammar} {start : String} {built : BuiltTable}
    (hbuilt : withStart g start = .ok built) (input : TokenStream) {horizon : Nat}
    (hhorizon : 1 ≤ horizon) (limit : Option Nat)
    (hkeeps : Problem.KeepsAllWithin ⟨g, built.table, input, horizon⟩ limit) :
    (∀ e, e.isRejection = true → Problem.Ends ⟨g, built.table, input, horizon⟩ limit (.error e) →
      ∀ tree, ¬Derives g input (· ∈ built.productions) (.item start) 0 input.size tree) ∧
    ∀ tree, Derives g input (· ∈ built.productions) (.item start) 0 input.size tree →
      ∀ o, Problem.Ends ⟨g, built.table, input, horizon⟩ limit o →
        (∃ f, o = .ok f) ∨ ∃ n, limit = some n ∧ o = .error (.stepLimit n) := by
  obtain ⟨hp, hproductions, rfl⟩ := builtFrom_of_withStart hbuilt input horizon
  have hends : ∀ tree, Derives g input (· ∈ built.productions) (.item built.table.acceptItem) 0
      input.size tree → ∀ o, Problem.Ends ⟨g, built.table, input, horizon⟩ limit o →
        (∃ f, o = .ok f) ∨ ∃ n, limit = some n ∧ o = .error (.stepLimit n) := by
    intro tree hderives o h
    refine hp.ends_of_derives (fun production hproduction => ?_) hhorizon hkeeps hderives h
    exact exists_number (hproductions ▸ hproduction)
  refine ⟨fun e he h tree hderives => ?_, hends⟩
  rcases hends tree hderives _ h with ⟨f, hf⟩ | ⟨n, -, hn⟩
  · cases hf
  · cases hn
    cases he

end Problem

end Library

namespace Problem

/-- Any number of openings around a centre, each with its closing. -/
def nested : Grammar where
  items := [⟨"S", .rule, [[.literal "x", .item "S", .literal "y"], [.literal "x"]]⟩]
  start := some "S"
  nodup_names := by decide
  wellFormed := by
    intro item h
    obtain rfl := List.mem_singleton.1 h
    exact ⟨by decide, by decide⟩
  start_mem := by decide

/-- The table of nested openings, in which an opening may also be the centre. -/
def nestedTable : BuiltTable where
  initial := [.shift 0]
  rows := #[⟨[(.item "S", [.accept]),
      (.literal "x", [.shift 2, .reduce ⟨"S", [.literal "x"]⟩])]⟩, ⟨[]⟩,
    ⟨[(.item "S", [.shift 3]),
      (.literal "x", [.shift 2, .reduce ⟨"S", [.literal "x"]⟩])]⟩,
    ⟨[(.literal "y", [.reduce ⟨"S", [.literal "x", .item "S", .literal "y"]⟩])]⟩, ⟨[]⟩]
  acceptItem := "S"
  productions := [⟨"S", [.literal "x", .item "S", .literal "y"]⟩, ⟨"S", [.literal "x"]⟩]

theorem withStart_nested : withStart nested "S" = .ok nestedTable := by cbv

/-- A centre with an opening that is never closed. -/
def unclosed : TokenStream := ⟨#[⟨"IDENT", "x", ⟨1, 1⟩⟩, ⟨"IDENT", "x", ⟨1, 2⟩⟩]⟩

/-- An opening that is never closed is rejected after all choices, so it cannot be derived. -/
theorem underivable_of_rejected_unclosed :
    withStart nested "S" = .ok nestedTable ∧
      Problem.KeepsAllWithin ⟨nested, nestedTable.table, unclosed, 100⟩ (some 20) ∧
      Problem.Ends ⟨nested, nestedTable.table, unclosed, 100⟩ (some 20)
        (.error (.unexpectedEnd ⟨1, 2⟩)) ∧
      ∀ tree, ¬Derives nested unclosed (· ∈ nestedTable.productions) (.item "S") 0 2 tree :=
  have hended : Problem.advance ⟨nested, nestedTable.table, unclosed, 100⟩ 20
      (Problem.start ⟨nested, nestedTable.table, unclosed, 100⟩) =
      .ended (.error (.unexpectedEnd ⟨1, 2⟩)) := rfl
  have hkeeps := (keepsAll_of_ended hended (by decide)).within (some 20)
  ⟨withStart_nested, hkeeps, rfl,
    (underivable_of_rejected withStart_nested unclosed (by decide) (some 20) hkeeps).1 _
    rfl rfl⟩

end Problem

end BranchLR
