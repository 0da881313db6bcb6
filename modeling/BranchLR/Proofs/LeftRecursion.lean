import Mathlib.Data.Finset.Card
import Mathlib.Logic.Relation
import BranchLR.Proofs.Derivation

/-!
# Recursion without tokens

An item opens another one when it can be entered first: only rules that may derive nothing stand
before it. Opening with something in front is hidden, since the search builds trees for what is in
front before it reads a token. A wrapping leaves a range as it is: only rules that may derive
nothing stand on both sides. Productions are grounded when no hidden opening leads back to where it
came from and no chain of productions wraps an item into itself from the front. Then the items that
can be dived into behind a hidden opening, and those that can be wrapped, become fewer with every
such step. They are counted here, as the ranks of an item.
-/

namespace BranchLR

open Relation

variable [RegexLibrary]

/-- The rules that may derive no token: the end of the input, and items with a production of such
rules. -/
inductive Nullable (productions : List Production) : Rule → Prop
  | endOfInput : Nullable productions .endOfInput
  | item {production : Production} (hmem : production ∈ productions)
      (hrules : ∀ X ∈ production.rules, Nullable productions X) :
      Nullable productions (.item production.item)

/-- An item opens another: in a production of it only nullable rules stand before the other. -/
def Opens (productions : List Production) (A B : String) : Prop :=
  ∃ before after, ⟨A, before ++ .item B :: after⟩ ∈ productions ∧
    ∀ X ∈ before, Nullable productions X

/-- An item opens another behind at least one rule. -/
def OpensHidden (productions : List Production) (A B : String) : Prop :=
  ∃ before after, before ≠ [] ∧ ⟨A, before ++ .item B :: after⟩ ∈ productions ∧
    ∀ X ∈ before, Nullable productions X

/-- A production of an item begins with another, and only nullable rules follow. -/
def WrapsFirst (productions : List Production) (A B : String) : Prop :=
  ∃ after, ⟨A, .item B :: after⟩ ∈ productions ∧ ∀ X ∈ after, Nullable productions X

/-- No hidden opening leads back to where it came from, and no item wraps itself by a chain of
productions that begin with the next one. Left recursion without anything in front is allowed if it
reads tokens. -/
structure Grounded (productions : List Production) : Prop where
  hidden : ∀ A B, OpensHidden productions A B → ¬ReflTransGen (Opens productions) B A
  wraps : ∀ A, ¬TransGen (WrapsFirst productions) A A

/-- An item is wrapped by another between nullable rules. -/
def Wraps (productions : List Production) (A B : String) : Prop :=
  ∃ before after, ⟨A, before ++ .item B :: after⟩ ∈ productions ∧
    (∀ X ∈ before, Nullable productions X) ∧ ∀ X ∈ after, Nullable productions X

/-- Openings lead from one item to another, and at least one of them is hidden. -/
def Dives (productions : List Production) (A B : String) : Prop :=
  ∃ C D, ReflTransGen (Opens productions) A C ∧ OpensHidden productions C D ∧
    ReflTransGen (Opens productions) D B

variable {productions : List Production} {A B C : String}

/-! ### Openings and wrappings -/

theorem OpensHidden.opens (h : OpensHidden productions A B) : Opens productions A B := by
  obtain ⟨before, after, -, hmem, hnullable⟩ := h
  exact ⟨before, after, hmem, hnullable⟩

theorem OpensHidden.dives (h : OpensHidden productions A B) : Dives productions A B :=
  ⟨A, B, .refl, h, .refl⟩

theorem Dives.of_opens (hopens : Opens productions A B) (h : Dives productions B C) :
    Dives productions A C := by
  obtain ⟨D, E, hfirst, hhidden, hrest⟩ := h
  exact ⟨D, E, .head hopens hfirst, hhidden, hrest⟩

/-- An item is opened by what wraps it, and the opening is hidden unless the item comes first. -/
theorem Wraps.cases (h : Wraps productions A B) :
    Opens productions A B ∧ (WrapsFirst productions A B ∨ OpensHidden productions A B) := by
  obtain ⟨before, after, hmem, hbefore, hafter⟩ := h
  refine ⟨⟨before, after, hmem, hbefore⟩, ?_⟩
  by_cases hempty : before = []
  · subst hempty
    exact .inl ⟨after, hmem, hafter⟩
  · exact .inr ⟨before, after, hempty, hmem, hbefore⟩

/-- A chain of wrappings goes over first rules only, or it dives. -/
theorem transGen_wrapsFirst_or_dives (h : TransGen (Wraps productions) A B) :
    ReflTransGen (Opens productions) A B ∧
      (TransGen (WrapsFirst productions) A B ∨ Dives productions A B) := by
  induction h with
  | single hwraps =>
    obtain ⟨hopens, hfirst | hhidden⟩ := hwraps.cases
    · exact ⟨.single hopens, .inl (.single hfirst)⟩
    · exact ⟨.single hopens, .inr hhidden.dives⟩
  | tail _ hwraps ih =>
    obtain ⟨hreaches, hchain⟩ := ih
    obtain ⟨hopens, hlast⟩ := hwraps.cases
    refine ⟨hreaches.tail hopens, ?_⟩
    rcases hchain with hchain | ⟨C, D, hC, hhidden, hD⟩
    · rcases hlast with hfirst | hhidden
      · exact .inl (hchain.tail hfirst)
      · exact .inr ⟨_, _, hreaches, hhidden, .refl⟩
    · exact .inr ⟨C, D, hC, hhidden, hD.tail hopens⟩

theorem Grounded.not_dives (h : Grounded productions) (A : String) : ¬Dives productions A A := by
  rintro ⟨C, D, hC, hhidden, hD⟩
  exact h.hidden C D hhidden (hD.trans hC)

theorem Grounded.not_wraps (h : Grounded productions) (A : String) :
    ¬TransGen (Wraps productions) A A := by
  intro hwraps
  rcases (transGen_wrapsFirst_or_dives hwraps).2 with hfirst | hdives
  · exact h.wraps A hfirst
  · exact h.not_dives A hdives

/-! ### Ranks -/

section

open Classical

variable {related : String → String → Prop}

/-- The number of items with productions that an item is related to. -/
noncomputable def rank (productions : List Production) (related : String → String → Prop)
    (A : String) : Nat :=
  ((productions.map Production.item).toFinset.filter (related A)).card

theorem rank_le_length (productions : List Production) (related : String → String → Prop)
    (A : String) : rank productions related A ≤ productions.length := by
  have hfilter := Finset.card_filter_le (productions.map Production.item).toFinset (related A)
  have hnames := List.toFinset_card_le (productions.map Production.item)
  rw [List.length_map] at hnames
  exact Nat.le_trans hfilter hnames

theorem rank_mono (h : ∀ C, related B C → related A C) :
    rank productions related B ≤ rank productions related A := by
  apply Finset.card_le_card
  intro C hC
  rw [Finset.mem_filter] at hC ⊢
  exact ⟨hC.1, h C hC.2⟩

/-- The rank falls along the relation if nothing is related to itself. -/
theorem rank_lt {production : Production} (hmem : production ∈ productions)
    (h : ∀ C, related production.item C → related A C) (hA : related A production.item)
    (hself : ¬related production.item production.item) :
    rank productions related production.item < rank productions related A := by
  apply Finset.card_lt_card
  refine Finset.ssubset_iff_of_subset ?_ |>.2 ⟨production.item, ?_, ?_⟩
  · intro C hC
    rw [Finset.mem_filter] at hC ⊢
    exact ⟨hC.1, h C hC.2⟩
  · rw [Finset.mem_filter, List.mem_toFinset]
    exact ⟨List.mem_map_of_mem hmem, hA⟩
  · intro hin
    exact hself (Finset.mem_filter.1 hin).2

end

/-- How many items can be dived into. -/
noncomputable def diveRank (productions : List Production) : String → Nat :=
  rank productions (Dives productions)

/-- How many items can be wrapped by a chain of wrappings. -/
noncomputable def wrapRank (productions : List Production) : String → Nat :=
  rank productions (TransGen (Wraps productions))

theorem Opens.diveRank_le (h : Opens productions A B) :
    diveRank productions B ≤ diveRank productions A :=
  rank_mono fun _ hdives => hdives.of_opens h

theorem Grounded.diveRank_lt (h : Grounded productions) {production : Production}
    (hmem : production ∈ productions) (hhidden : OpensHidden productions A production.item) :
    diveRank productions production.item < diveRank productions A :=
  rank_lt hmem (fun _ hdives => hdives.of_opens hhidden.opens) hhidden.dives (h.not_dives _)

theorem Grounded.wrapRank_lt (h : Grounded productions) {production : Production}
    (hmem : production ∈ productions) (hwraps : Wraps productions A production.item) :
    wrapRank productions production.item < wrapRank productions A :=
  rank_lt hmem (fun _ hchain => .head hwraps hchain) (.single hwraps) (h.not_wraps _)

/-! ### What derives no token -/

variable {g : Grammar} {input : TokenStream} {admits : Production → Prop}

mutual

/-- What derives an empty range is nullable. -/
theorem Derives.nullable (hadmits : ∀ production, admits production → production ∈ productions)
    {X : Rule} {i j : Nat} {n : Node} :
    Derives g input admits X i j n → j ≤ i → Nullable productions X
  | .token _ _, hle => absurd hle (Nat.not_succ_le_self i)
  | .endOfInput, _ => .endOfInput
  | .parent hproduction hchildren, hle =>
    .item (hadmits _ hproduction) (hchildren.nullable hadmits hle)

theorem DerivesAll.nullable (hadmits : ∀ production, admits production → production ∈ productions)
    {rules : List Rule} {i j : Nat} {ns : List Node} :
    DerivesAll g input admits rules i j ns → j ≤ i → ∀ X ∈ rules, Nullable productions X
  | .nil, _ => nofun
  | .cons hhead htail, hle => by
    obtain ⟨hfirst, -⟩ := hhead.leaves_eq
    obtain ⟨hrest, -⟩ := htail.leaves_eq
    intro X hX
    rcases List.mem_cons.1 hX with rfl | hX
    · exact hhead.nullable hadmits (by omega)
    · exact htail.nullable hadmits (by omega) X hX

end

end BranchLR
