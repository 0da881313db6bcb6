import BranchLR.Proofs.Flattening.Language
import BranchLR.Proofs.Flattening.ContextFree

/-!
# The context-free grammar of flat productions

A flat rule is a single symbol, so flat productions are the rules of a context-free grammar. The
names of token-items are its terminals, beside literals, patterns and the end of the input. All
other items are nonterminals, also those that are not defined and derive nothing.
-/

namespace BranchLR

variable [RegexLibrary]

/-- The symbol that a flat rule is: a terminal or the name of an item. -/
def Rule.symbol? (g : Grammar) : Rule → Option (Terminal ⊕ String)
  | .item name => some (if (g.tokenItem? name).isSome then .inl (.token name) else .inr name)
  | .literal text => some (.inl (.literal text))
  | .pattern p => some (.inl (.pattern p))
  | .endOfInput => some (.inl .endOfInput)
  | _ => none

/-- A flat production as a rule of a context-free grammar. -/
def Production.rewriting (g : Grammar) (p : Production) : ContextFreeRule Terminal String where
  input := p.item
  output := (p.rules.filterMap (Rule.symbol? g)).map (Sum.elim .terminal .nonterminal)

/-- The context-free grammar of the flat productions, from a start item. -/
@[reducible]
def Grammar.flat (g : Grammar) (start : String) : ContextFreeGrammar Terminal where
  NT := String
  initial := start
  rules := (g.productions.map (Production.rewriting g)).toFinset

/-- The languages given, with the token-items as terminals. -/
def Grammar.withTokens (g : Grammar) (ρ : String → Language Terminal) (name : String) :
    Language Terminal :=
  if (g.tokenItem? name).isSome then {[.token name]} else ρ name

section

variable {g : Grammar} {name start : String} {ρ : String → Language Terminal}

theorem Grammar.withTokens_of_token (h : (g.tokenItem? name).isSome = true) :
    g.withTokens ρ name = {[.token name]} :=
  if_pos h

theorem Grammar.withTokens_of_eq_none (h : g.tokenItem? name = none) :
    g.withTokens ρ name = ρ name :=
  if_neg (by simp [h])

/-- A flat rule is a symbol, and it has the language of this symbol. -/
theorem Rule.exists_symbol (g : Grammar) (ρ : String → Language Terminal) {r : Rule}
    (h : r.isFlat = true) :
    ∃ x, r.symbol? g = some x ∧
      r.language (g.withTokens ρ) = Sum.elim (fun a => {[a]}) ρ x := by
  cases r with
  | item name =>
    refine ⟨_, rfl, ?_⟩
    simp only [Rule.language, Grammar.withTokens]
    split <;> rfl
  | literal text => exact ⟨_, rfl, rfl⟩
  | pattern p => exact ⟨_, rfl, rfl⟩
  | endOfInput => exact ⟨_, rfl, rfl⟩
  | _ => cases h

/-- A flat sequence has the language of its symbols. -/
theorem Grammar.formLanguage_symbols (start : String) {rules : List Rule} (h : FlatRules rules) :
    (g.flat start).formLanguage ρ
        ((rules.filterMap (Rule.symbol? g)).map (Sum.elim .terminal .nonterminal)) =
      Rule.languageAll (g.withTokens ρ) rules := by
  induction rules with
  | nil => rfl
  | cons r rules ih =>
    have hr : r.isFlat = true := h r List.mem_cons_self
    obtain ⟨x, hx, hlanguage⟩ := Rule.exists_symbol g ρ hr
    rw [List.filterMap_cons_some hx, Rule.languageAll_cons (Rule.ne_empty_of_isFlat hr), hlanguage,
      ← ih fun s hs => h s (List.mem_cons_of_mem _ hs)]
    cases x with
    | inl a => rfl
    | inr name => rfl

/-- Languages are closed under the rules of the flat grammar when they keep to all flat
productions. -/
theorem Grammar.closed_flat_iff (start : String) : (g.flat start).Closed ρ ↔
    ∀ p ∈ g.productions, Rule.languageAll (g.withTokens ρ) p.rules ≤ ρ p.item := by
  have hrules : ∀ r : ContextFreeRule Terminal String,
      r ∈ (g.flat start).rules ↔ ∃ p ∈ g.productions, p.rewriting g = r := by
    intro r
    show r ∈ (g.productions.map (Production.rewriting g)).toFinset ↔ _
    rw [List.mem_toFinset, List.mem_map]
  constructor
  · intro h p hp
    have hflat := Grammar.flatRules_of_mem_productions hp
    have hle := h (p.rewriting g) ((hrules _).2 ⟨p, hp, rfl⟩)
    exact (Grammar.formLanguage_symbols start hflat).symm.trans_le hle
  · intro h r hr
    obtain ⟨p, hp, rfl⟩ := (hrules r).1 hr
    have hflat := Grammar.flatRules_of_mem_productions hp
    exact (Grammar.formLanguage_symbols start hflat).trans_le (h p hp)

end

end BranchLR
