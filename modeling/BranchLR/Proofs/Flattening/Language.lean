import Mathlib.Computability.Language
import Mathlib.Order.FixedPoints
import Mathlib.Order.CompletePartialOrder
import BranchLR.Proofs.Flattening.Flat

/-!
# The languages of nested rules

The words of a grammar are made of terminals: names of token-items, literals, patterns and the end
of the input. Once a language is chosen for every item, a rule with brackets has a language, and so
has a sequence of rules up to its first empty match. The languages of the items are the least choice
in which every rule item has the union of the languages of its alternatives.
-/

namespace BranchLR

open scoped Computability

variable [RegexLibrary]

/-- What the words of a grammar are made of. -/
inductive Terminal where
  /-- Any token that a token-item stands for, by the name of the item. -/
  | token (name : String)
  | literal (text : String)
  | pattern (p : Pattern)
  | endOfInput
  deriving DecidableEq

mutual

/-- The language of a rule when those of the items are given. The empty match counts only in the
sequence that it ends. -/
def Rule.language (ρ : String → Language Terminal) : Rule → Language Terminal
  | .item name => ρ name
  | .literal text => {[.literal text]}
  | .pattern p => {[.pattern p]}
  | .empty => 1
  | .endOfInput => {[.endOfInput]}
  | .optional body => 1 + Rule.languageAll ρ body
  | .repeated body => (Rule.languageAll ρ body)∗

/-- The language of a sequence of rules up to its first empty match. -/
def Rule.languageAll (ρ : String → Language Terminal) : List Rule → Language Terminal
  | [] => 1
  | .empty :: _ => 1
  | r :: rest => r.language ρ * Rule.languageAll ρ rest

end

/-- The union of the languages of several sequences. -/
def Rule.languageAny (ρ : String → Language Terminal) (alternatives : List (List Rule)) :
    Language Terminal :=
  ⨆ alternative ∈ alternatives, Rule.languageAll ρ alternative

/-- What the languages given say about an item: a token-item stands for its terminal, a rule item
for its alternatives, and without a definition there are no words. -/
def Grammar.unfold (g : Grammar) (ρ : String → Language Terminal) (name : String) :
    Language Terminal :=
  match g.find? name with
  | none => 0
  | some item =>
    if item.isToken then {[.token name]} else Rule.languageAny ρ item.alternatives

/-! ### Sequences and alternatives -/

section

variable {ρ ρ' : String → Language Terminal} {L : Language Terminal}

theorem Rule.languageAll_cons {r : Rule} {rest : List Rule} (h : r ≠ .empty) :
    Rule.languageAll ρ (r :: rest) = r.language ρ * Rule.languageAll ρ rest := by
  cases r <;> first | rfl | exact absurd rfl h

theorem Rule.languageAll_singleton {r : Rule} (h : r ≠ .empty) :
    Rule.languageAll ρ [r] = r.language ρ := by
  rw [Rule.languageAll_cons h, Rule.languageAll, mul_one]

theorem Rule.languageAll_item (name : String) : Rule.languageAll ρ [.item name] = ρ name :=
  mul_one _

theorem Rule.ne_empty_of_isFlat {r : Rule} (h : r.isFlat = true) : r ≠ .empty := by
  rintro rfl
  cases h

/-- A flat sequence is not cut off, so what follows it counts. -/
theorem Rule.languageAll_append {as bs : List Rule} (h : FlatRules as) :
    Rule.languageAll ρ (as ++ bs) = Rule.languageAll ρ as * Rule.languageAll ρ bs := by
  induction as with
  | nil => exact (one_mul _).symm
  | cons a as ih =>
    have ha : a ≠ .empty := Rule.ne_empty_of_isFlat (h a List.mem_cons_self)
    rw [List.cons_append, Rule.languageAll_cons ha, Rule.languageAll_cons ha,
      ih fun r hr => h r (List.mem_cons_of_mem _ hr), mul_assoc]

theorem Rule.mem_languageAny {alternatives : List (List Rule)} {w : List Terminal} :
    w ∈ Rule.languageAny ρ alternatives ↔
      ∃ alternative ∈ alternatives, w ∈ Rule.languageAll ρ alternative := by
  simp only [Rule.languageAny, Language.mem_iSup, exists_prop]

theorem Rule.languageAny_le_iff {alternatives : List (List Rule)} :
    Rule.languageAny ρ alternatives ≤ L ↔
      ∀ alternative ∈ alternatives, Rule.languageAll ρ alternative ≤ L :=
  iSup₂_le_iff

theorem Rule.le_languageAny {alternatives : List (List Rule)} {alternative : List Rule}
    (h : alternative ∈ alternatives) :
    Rule.languageAll ρ alternative ≤ Rule.languageAny ρ alternatives :=
  Rule.languageAny_le_iff.1 le_rfl alternative h

theorem Rule.one_le_languageAny {alternatives : List (List Rule)} (h : [] ∈ alternatives) :
    1 ≤ Rule.languageAny ρ alternatives :=
  Rule.le_languageAny h

/-- Joining flat variants puts their words side by side. -/
theorem Rule.languageAny_joinVariants {heads tails : List (List Rule)}
    (h : ∀ head ∈ heads, FlatRules head) :
    Rule.languageAny ρ (joinVariants heads tails) =
      Rule.languageAny ρ heads * Rule.languageAny ρ tails := by
  ext w
  simp only [Rule.mem_languageAny, Language.mem_mul, mem_joinVariants]
  constructor
  · rintro ⟨_, ⟨head, hhead, tail, htail, rfl⟩, hw⟩
    rw [Rule.languageAll_append (h head hhead)] at hw
    obtain ⟨u, hu, v, hv, rfl⟩ := Language.mem_mul.1 hw
    exact ⟨u, ⟨head, hhead, hu⟩, v, ⟨tail, htail, hv⟩, rfl⟩
  · rintro ⟨u, ⟨head, hhead, hu⟩, v, ⟨tail, htail, hv⟩, rfl⟩
    refine ⟨head ++ tail, ⟨head, hhead, tail, htail, rfl⟩, ?_⟩
    rw [Rule.languageAll_append (h head hhead)]
    exact Language.append_mem_mul hu hv

/-! ### Least languages -/

mutual

/-- Larger languages for the items give larger languages. -/
theorem Rule.language_mono (h : ρ ≤ ρ') : ∀ r : Rule, r.language ρ ≤ r.language ρ'
  | .item name => h name
  | .optional body => add_le_add_right (Rule.languageAll_mono h body) 1
  | .repeated body => kstar_mono (Rule.languageAll_mono h body)
  | .literal _ | .pattern _ | .empty | .endOfInput => le_rfl

theorem Rule.languageAll_mono (h : ρ ≤ ρ') :
    ∀ rules : List Rule, Rule.languageAll ρ rules ≤ Rule.languageAll ρ' rules
  | [] => le_rfl
  | r :: rest => by
    by_cases hempty : r = .empty
    · subst hempty
      exact le_rfl
    · rw [Rule.languageAll_cons hempty, Rule.languageAll_cons hempty]
      exact mul_le_mul' (Rule.language_mono h r) (Rule.languageAll_mono h rest)

end

end

theorem Grammar.unfold_mono (g : Grammar) : Monotone g.unfold := by
  intro ρ ρ' h name
  unfold Grammar.unfold
  split
  · exact le_rfl
  · split
    · exact le_rfl
    · exact Rule.languageAny_le_iff.2 fun alternative halternative =>
        (Rule.languageAll_mono h alternative).trans (Rule.le_languageAny halternative)

/-- The languages of the items of a grammar: the least ones that agree with its alternatives. -/
def Grammar.languages (g : Grammar) : String → Language Terminal :=
  OrderHom.lfp ⟨g.unfold, g.unfold_mono⟩

/-- The languages of the items agree with the alternatives. -/
theorem Grammar.unfold_languages (g : Grammar) : g.unfold g.languages = g.languages :=
  OrderHom.map_lfp ⟨g.unfold, g.unfold_mono⟩

/-- All other languages that agree with the alternatives are larger. -/
theorem Grammar.languages_le {g : Grammar} {ρ : String → Language Terminal}
    (h : g.unfold ρ ≤ ρ) : g.languages ≤ ρ :=
  OrderHom.lfp_le _ h

end BranchLR
