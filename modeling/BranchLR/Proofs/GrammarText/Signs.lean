import BranchLR.Proofs.GrammarText.Phrases
import BranchLR.Proofs.GrammarText.Quotations

/-!
# The signs of a grammar

A sign is what a phrase means, whichever way its quotation is written. The signs of a grammar are
those of its items in the order in which they are written, so phrases that make the items of a
grammar have its signs, one by one. Each sign has a phrase of its own, in which a grammar is
written.
-/

namespace BranchLR

theorem toOption_eq_some_iff {ε α : Type} {x : Except ε α} {a : α} :
    x.toOption = some a ↔ x = .ok a := by
  cases x <;> simp [Except.toOption]

variable [RegexLibrary]

namespace Rule

mutual

/-- The patterns in a rule, at any depth. -/
def patterns : Rule → List Pattern
  | pattern p => [p]
  | optional body => patternsAll body
  | repeated body => patternsAll body
  | _ => []

/-- The patterns in rules in a row. -/
def patternsAll : List Rule → List Pattern
  | [] => []
  | r :: rules => r.patterns ++ patternsAll rules

end

end Rule

/-- The patterns in the rules of a grammar. -/
def Grammar.patterns (g : Grammar) : List Pattern :=
  g.items.flatMap fun item => item.alternatives.flatMap Rule.patternsAll

namespace GrammarText

/-- What a phrase of an item means. -/
inductive Sign where
  | heading (name : String) (kind : ItemKind)
  | reference (name : String)
  | literal (text : String)
  | pattern (p : Pattern)
  | empty
  | endOfInput
  | bar
  | opening (kind : BracketKind)
  | closing (kind : BracketKind)

/-- The sign that a phrase is, if it has a place in an item. -/
def Phrase.sign? : Phrase → Option Sign
  | token name => some (.heading name .token)
  | imported name => some (.heading name .imported)
  | word (.itemName name) => some (.heading name .rule)
  | word (.name name) => some (.reference name)
  | word (.literal mark raw) => some (.literal (literalText mark raw))
  | word (.delimiter .bar) => some .bar
  | word (.delimiter .parenOpen) => some (.opening .optional)
  | word (.delimiter .squareOpen) => some (.opening .repeated)
  | word (.delimiter .parenClose) => some (.closing .optional)
  | word (.delimiter .squareClose) => some (.closing .repeated)
  | braces (.name "EMPTY") => some .empty
  | braces (.name "EOF") => some .endOfInput
  | braces (.literal mark raw) => (Pattern.ofSource (patternText mark raw)).toOption.map .pattern
  | _ => none

/-- The phrase in which a sign is written. -/
def Sign.phrase : Sign → Phrase
  | heading name kind => .heading name kind
  | reference name => .word (.name name)
  | literal text => .word (.literal '\'' (String.ofList (escapes '\'' true text.toList)))
  | pattern p => .braces (.literal '"' (String.ofList (escapes '"' false p.source.toList)))
  | empty => .braces (.name "EMPTY")
  | endOfInput => .braces (.name "EOF")
  | bar => .word (.delimiter .bar)
  | opening kind => .word (.delimiter kind.opening)
  | closing kind => .word (.delimiter kind.closing)

mutual

/-- The signs of a rule. -/
def signsOfRule : Rule → List Sign
  | .item name => [.reference name]
  | .literal text => [.literal text]
  | .pattern p => [.pattern p]
  | .empty => [.empty]
  | .endOfInput => [.endOfInput]
  | .optional body => .opening .optional :: signsOfRules body ++ [.closing .optional]
  | .repeated body => .opening .repeated :: signsOfRules body ++ [.closing .repeated]

/-- The signs of rules in a row. -/
def signsOfRules : List Rule → List Sign
  | [] => []
  | r :: rules => signsOfRule r ++ signsOfRules rules

end

/-- The signs of alternatives, with a bar between any two of them. -/
def signsOfAlternatives : List (List Rule) → List Sign
  | [] => []
  | [rules] => signsOfRules rules
  | rules :: others => signsOfRules rules ++ .bar :: signsOfAlternatives others

/-- The signs of an item. -/
def signsOfItem (item : Item) : List Sign :=
  .heading item.name item.kind :: signsOfAlternatives item.alternatives

theorem signsOfRule_bracket (kind : BracketKind) (rules : List Rule) :
    signsOfRule (kind.rule rules) = .opening kind :: signsOfRules rules ++ [.closing kind] := by
  cases kind <;> simp [BracketKind.rule, signsOfRule]

theorem signsOfAlternatives_cons {rules : List Rule} {others : List (List Rule)} (h : others ≠ []) :
    signsOfAlternatives (rules :: others) =
      signsOfRules rules ++ .bar :: signsOfAlternatives others := by
  cases others with
  | nil => exact absurd rfl h
  | cons => rfl

mutual

theorem pattern_mem_signsOfRule_iff (p : Pattern) : ∀ r : Rule,
    Sign.pattern p ∈ signsOfRule r ↔ p ∈ r.patterns
  | .item name => by simp [signsOfRule, Rule.patterns]
  | .literal text => by simp [signsOfRule, Rule.patterns]
  | .pattern q => by simp [signsOfRule, Rule.patterns]
  | .empty => by simp [signsOfRule, Rule.patterns]
  | .endOfInput => by simp [signsOfRule, Rule.patterns]
  | .optional body => by
    simp [signsOfRule, Rule.patterns, pattern_mem_signsOfRules_iff p body]
  | .repeated body => by
    simp [signsOfRule, Rule.patterns, pattern_mem_signsOfRules_iff p body]

theorem pattern_mem_signsOfRules_iff (p : Pattern) : ∀ rules : List Rule,
    Sign.pattern p ∈ signsOfRules rules ↔ p ∈ Rule.patternsAll rules
  | [] => by simp [signsOfRules, Rule.patternsAll]
  | r :: rules => by
    simp [signsOfRules, Rule.patternsAll, pattern_mem_signsOfRule_iff p r,
      pattern_mem_signsOfRules_iff p rules]

end

theorem pattern_mem_signsOfAlternatives_iff (p : Pattern) (alternatives : List (List Rule)) :
    Sign.pattern p ∈ signsOfAlternatives alternatives ↔
      p ∈ alternatives.flatMap Rule.patternsAll := by
  fun_induction signsOfAlternatives alternatives with
  | case1 => simp
  | case2 rules => simp [pattern_mem_signsOfRules_iff]
  | case3 rules others hne ih => simp [pattern_mem_signsOfRules_iff, ih]

/-- The patterns of a grammar are those of its signs. -/
theorem pattern_mem_signs_iff (g : Grammar) (p : Pattern) :
    Sign.pattern p ∈ g.items.flatMap signsOfItem ↔ p ∈ g.patterns := by
  simp [Grammar.patterns, signsOfItem, pattern_mem_signsOfAlternatives_iff]

/-! ### Phrases that make items have their signs -/

@[simp]
theorem Phrase.sign?_opening (kind : BracketKind) :
    (Phrase.word (.delimiter kind.opening)).sign? = some (.opening kind) := by
  cases kind <;> rfl

@[simp]
theorem Phrase.sign?_closing (kind : BracketKind) :
    (Phrase.word (.delimiter kind.closing)).sign? = some (.closing kind) := by
  cases kind <;> rfl

mutual

theorem MakesRule.map_sign? {ps : List Phrase} {r : Rule} :
    MakesRule ps r → ps.map Phrase.sign? = (signsOfRule r).map some
  | .name => by simp [Phrase.sign?, signsOfRule]
  | .literal => by simp [Phrase.sign?, signsOfRule]
  | .empty => by simp [Phrase.sign?, signsOfRule]
  | .endOfInput => by simp [Phrase.sign?, signsOfRule]
  | .bracket hrules _ => by simp [signsOfRule_bracket, hrules.map_sign?]

theorem MakesRules.map_sign? {ps : List Phrase} {rules : List Rule} :
    MakesRules ps rules → ps.map Phrase.sign? = (signsOfRules rules).map some
  | .nil => by simp [signsOfRules]
  | .cons hfirst hrest => by simp [signsOfRules, hfirst.map_sign?, hrest.map_sign?]

end

theorem MakesAlternative.map_sign? {kind : ItemKind} {ps : List Phrase} {rules : List Rule}
    (h : MakesAlternative kind ps rules) : ps.map Phrase.sign? = (signsOfRules rules).map some := by
  cases h with
  | rules hrules _ => exact hrules.map_sign?
  | literal => simp [Phrase.sign?, signsOfRules, signsOfRule]
  | pattern hp => simp [Phrase.sign?, signsOfRules, signsOfRule, toOption_eq_some_iff.2 hp]

theorem MakesAlternatives.map_sign? {kind : ItemKind} {ps : List Phrase}
    {alternatives : List (List Rule)} (h : MakesAlternatives kind ps alternatives) :
    ps.map Phrase.sign? = (signsOfAlternatives alternatives).map some := by
  induction h with
  | last halternative => exact halternative.map_sign?
  | cons hfirst hrest ih =>
    simp [signsOfAlternatives_cons hrest.ne_nil, hfirst.map_sign?, ih, Phrase.sign?]

theorem MakesItem.map_sign? {ps : List Phrase} {item : Item} (h : MakesItem ps item) :
    ps.map Phrase.sign? = (signsOfItem item).map some := by
  cases h with
  | rule halternatives => simp [signsOfItem, halternatives.map_sign?, Phrase.sign?]
  | token halternatives => simp [signsOfItem, halternatives.map_sign?, Phrase.sign?]
  | imported => simp [signsOfItem, signsOfAlternatives, Phrase.sign?]

/-- Phrases that make items have the signs of these. -/
theorem MakesItems.map_sign? {ps : List Phrase} {items : List Item} (h : MakesItems ps items) :
    ps.map Phrase.sign? = (items.flatMap signsOfItem).map some := by
  induction h with
  | nil => rfl
  | cons hfirst _ ih => simp [hfirst.map_sign?, ih]

/-! ### Signs as they are written -/

mutual

theorem MakesRule.written {ps : List Phrase} {r : Rule} :
    MakesRule ps r → MakesRule ((signsOfRule r).map Sign.phrase) r
  | .name => by simpa [signsOfRule, Sign.phrase] using MakesRule.name
  | @MakesRule.literal _ mark raw => by
    have h : MakesRule [Sign.phrase (.literal (literalText mark raw))] (.literal _) := .literal
    simpa [signsOfRule, literalText_escapes] using h
  | .empty => by simpa [signsOfRule, Sign.phrase] using MakesRule.empty
  | .endOfInput => by simpa [signsOfRule, Sign.phrase] using MakesRule.endOfInput
  | .bracket hrules hne => by
    simpa [signsOfRule_bracket, Sign.phrase] using MakesRule.bracket hrules.written hne

theorem MakesRules.written {ps : List Phrase} {rules : List Rule} :
    MakesRules ps rules → MakesRules ((signsOfRules rules).map Sign.phrase) rules
  | .nil => by simpa [signsOfRules] using MakesRules.nil
  | .cons hfirst hrest => by
    simpa [signsOfRules] using MakesRules.cons hfirst.written hrest.written

end

theorem MakesAlternative.written {kind : ItemKind} {ps : List Phrase} {rules : List Rule}
    (h : MakesAlternative kind ps rules)
    (hfaithful : ∀ s ∈ signsOfRules rules, s.phrase.sign? = some s) :
    MakesAlternative kind ((signsOfRules rules).map Sign.phrase) rules := by
  cases h with
  | rules hrules hne => exact .rules hrules.written hne
  | @literal mark raw =>
    have h : MakesAlternative .token [Sign.phrase (.literal (literalText mark raw))] [.literal _] :=
      .literal
    simpa [signsOfRules, signsOfRule, literalText_escapes] using h
  | @pattern mark raw p hp =>
    have hphrase := hfaithful (.pattern p) (by simp [signsOfRules, signsOfRule])
    rw [Sign.phrase, Phrase.sign?, Option.map_eq_some_iff] at hphrase
    obtain ⟨q, hq, heq⟩ := hphrase
    cases heq
    have h : MakesAlternative .token [Sign.phrase (.pattern p)] [.pattern p] :=
      .pattern (toOption_eq_some_iff.1 hq)
    simpa [signsOfRules, signsOfRule] using h

theorem MakesAlternatives.written {kind : ItemKind} {ps : List Phrase}
    {alternatives : List (List Rule)} (h : MakesAlternatives kind ps alternatives)
    (hfaithful : ∀ s ∈ signsOfAlternatives alternatives, s.phrase.sign? = some s) :
    MakesAlternatives kind ((signsOfAlternatives alternatives).map Sign.phrase) alternatives := by
  induction h with
  | last halternative => exact .last (halternative.written hfaithful)
  | cons hfirst hrest ih =>
    rw [signsOfAlternatives_cons hrest.ne_nil] at hfaithful ⊢
    obtain ⟨hrules, -, hothers⟩ := by
      simpa only [List.forall_mem_append, List.forall_mem_cons] using hfaithful
    simpa [Sign.phrase] using MakesAlternatives.cons (hfirst.written hrules) (ih hothers)

theorem MakesItem.written {ps : List Phrase} {item : Item} (h : MakesItem ps item)
    (hfaithful : ∀ s ∈ signsOfItem item, s.phrase.sign? = some s) :
    MakesItem ((signsOfItem item).map Sign.phrase) item := by
  have hrest := (List.forall_mem_cons.1 hfaithful).2
  cases h with
  | rule halternatives => exact .rule (halternatives.written hrest)
  | token halternatives => exact .token (halternatives.written hrest)
  | imported => exact .imported

/-- Items are made by the phrases in which their signs are written, if each of these phrases has its
sign again. -/
theorem MakesItems.written {ps : List Phrase} {items : List Item} (h : MakesItems ps items)
    (hfaithful : ∀ s ∈ items.flatMap signsOfItem, s.phrase.sign? = some s) :
    MakesItems ((items.flatMap signsOfItem).map Sign.phrase) items := by
  induction h with
  | nil => exact .nil
  | cons hfirst _ ih =>
    rw [List.flatMap_cons] at hfaithful ⊢
    obtain ⟨hitem, hitems⟩ := List.forall_mem_append.1 hfaithful
    rw [List.map_append]
    exact .cons (hfirst.written hitem) (ih hitems)

end GrammarText

end BranchLR
