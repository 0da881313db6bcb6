import BranchLR.GrammarText.Clause

/-!
# The phrases of grammar texts

What a grammar text says is given here by a grammar over phrases, without the reader. A phrase is a
keyword with its argument, a word between braces, or any other single word. Phrases in a row make
rules, rules make alternatives, and alternatives make items; the choice of the start item stands
apart and may be put between any two phrases. The clauses of a text are its phrases one by one, as
long as each of them can be read.
-/

namespace BranchLR.GrammarText

variable [RegexLibrary]

/-- The delimiter that opens a bracket. -/
def BracketKind.opening : BracketKind → Delimiter
  | optional => .parenOpen
  | repeated => .squareOpen

/-- The delimiter that closes a bracket. -/
def BracketKind.closing : BracketKind → Delimiter
  | optional => .parenClose
  | repeated => .squareClose

/-- Words that belong together. -/
inductive Phrase where
  /-- The keyword for a token with the name that it declares. -/
  | token (name : String)
  /-- The keyword for an imported token with its name. -/
  | imported (name : String)
  /-- The keyword for the start item with its name. -/
  | start (name : String)
  /-- A word between braces. -/
  | braces (inner : Word)
  /-- A single word. -/
  | word (w : Word)
  deriving DecidableEq

namespace Phrase

/-- The words of a phrase. -/
def words : Phrase → List Word
  | token name => [.keyword .token, .itemName name]
  | imported name => [.keyword .imported, .name name]
  | start name => [.keyword .start, .name name]
  | braces inner => [.delimiter .braceOpen, inner, .delimiter .braceClose]
  | word w => [w]

/-- The phrase that opens the definition of an item. -/
def heading (name : String) : ItemKind → Phrase
  | .rule => word (.itemName name)
  | .token => token name
  | .imported => imported name

/-- The start item that a phrase chooses. -/
def start? : Phrase → Option String
  | start name => some name
  | _ => none

end Phrase

/-- The phrases besides those that choose the start item. -/
def withoutStarts (phrases : List Phrase) : List Phrase :=
  phrases.filter fun phrase => phrase.start?.isNone

/-- The start item that is chosen last. -/
def lastStart (phrases : List Phrase) : Option String := (phrases.filterMap Phrase.start?).getLast?

/-! ### What phrases make -/

mutual

/-- The phrases make a rule. -/
inductive MakesRule : List Phrase → Rule → Prop
  | name {s : String} : MakesRule [.word (.name s)] (.item s)
  | literal {mark : Char} {raw : String} :
      MakesRule [.word (.literal mark raw)] (.literal (literalText mark raw))
  | empty : MakesRule [.braces (.name "EMPTY")] .empty
  | endOfInput : MakesRule [.braces (.name "EOF")] .endOfInput
  | bracket {kind : BracketKind} {phrases : List Phrase} {rules : List Rule}
      (hrules : MakesRules phrases rules) (hne : rules ≠ []) :
      MakesRule (.word (.delimiter kind.opening) :: phrases ++ [.word (.delimiter kind.closing)])
        (kind.rule rules)

/-- The phrases make any number of rules in a row. -/
inductive MakesRules : List Phrase → List Rule → Prop
  | nil : MakesRules [] []
  | cons {first rest : List Phrase} {r : Rule} {rules : List Rule} (hfirst : MakesRule first r)
      (hrest : MakesRules rest rules) : MakesRules (first ++ rest) (r :: rules)

end

/-- The phrases make an alternative of an item: at least one rule, and for a token one literal or
one pattern that compiles. -/
inductive MakesAlternative : ItemKind → List Phrase → List Rule → Prop
  | rules {phrases : List Phrase} {rules : List Rule} (hrules : MakesRules phrases rules)
      (hne : rules ≠ []) : MakesAlternative .rule phrases rules
  | literal {mark : Char} {raw : String} :
      MakesAlternative .token [.word (.literal mark raw)] [.literal (literalText mark raw)]
  | pattern {mark : Char} {raw : String} {p : Pattern}
      (hp : Pattern.ofSource (patternText mark raw) = .ok p) :
      MakesAlternative .token [.braces (.literal mark raw)] [.pattern p]

/-- The phrases make alternatives of an item, with a bar between any two of them. -/
inductive MakesAlternatives (kind : ItemKind) : List Phrase → List (List Rule) → Prop
  | last {phrases : List Phrase} {rules : List Rule}
      (halternative : MakesAlternative kind phrases rules) :
      MakesAlternatives kind phrases [rules]
  | cons {first rest : List Phrase} {rules : List Rule} {others : List (List Rule)}
      (hfirst : MakesAlternative kind first rules) (hrest : MakesAlternatives kind rest others) :
      MakesAlternatives kind (first ++ .word (.delimiter .bar) :: rest) (rules :: others)

/-- The phrases make an item. -/
inductive MakesItem : List Phrase → Item → Prop
  | rule {name : String} {phrases : List Phrase} {alternatives : List (List Rule)}
      (halternatives : MakesAlternatives .rule phrases alternatives) :
      MakesItem (.word (.itemName name) :: phrases) ⟨name, .rule, alternatives⟩
  | token {name : String} {phrases : List Phrase} {alternatives : List (List Rule)}
      (halternatives : MakesAlternatives .token phrases alternatives) :
      MakesItem (.token name :: phrases) ⟨name, .token, alternatives⟩
  | imported {name : String} : MakesItem [.imported name] ⟨name, .imported, []⟩

/-- The phrases make items in a row. -/
inductive MakesItems : List Phrase → List Item → Prop
  | nil : MakesItems [] []
  | cons {first rest : List Phrase} {item : Item} {items : List Item}
      (hfirst : MakesItem first item) (hrest : MakesItems rest items) :
      MakesItems (first ++ rest) (item :: items)

theorem MakesRules.append {ps qs : List Phrase} {as bs : List Rule} (has : MakesRules ps as)
    (hbs : MakesRules qs bs) : MakesRules (ps ++ qs) (as ++ bs) := by
  induction as generalizing ps with
  | nil =>
    cases has
    exact hbs
  | cons a as ih =>
    cases has with
    | cons hfirst hrest =>
      rw [List.append_assoc]
      exact .cons hfirst (ih hrest)

theorem MakesRule.single {ps : List Phrase} {r : Rule} (h : MakesRule ps r) :
    MakesRules ps [r] := by
  rw [← List.append_nil ps]
  exact .cons h .nil

theorem MakesItems.append {ps qs : List Phrase} {as bs : List Item} (has : MakesItems ps as)
    (hbs : MakesItems qs bs) : MakesItems (ps ++ qs) (as ++ bs) := by
  induction has with
  | nil => exact hbs
  | cons hfirst _ ih =>
    rw [List.append_assoc]
    exact .cons hfirst ih

theorem MakesAlternative.ne_nil {kind : ItemKind} {ps : List Phrase} {rules : List Rule}
    (h : MakesAlternative kind ps rules) : rules ≠ [] := by
  cases h with
  | rules _ hne => exact hne
  | literal => nofun
  | pattern => nofun

theorem MakesAlternatives.ne_nil {kind : ItemKind} {ps : List Phrase}
    {alternatives : List (List Rule)} (h : MakesAlternatives kind ps alternatives) :
    alternatives ≠ [] := by
  cases h <;> nofun

theorem MakesAlternatives.nil_notMem {kind : ItemKind} {ps : List Phrase}
    {alternatives : List (List Rule)} (h : MakesAlternatives kind ps alternatives) :
    [] ∉ alternatives := by
  induction h with
  | last halternative => simpa using halternative.ne_nil.symm
  | cons hfirst _ ih => simpa [ih] using hfirst.ne_nil.symm

/-- Items that phrases make may be part of a grammar. -/
theorem MakesItem.wellFormed {ps : List Phrase} {item : Item} (h : MakesItem ps item) :
    item.WellFormed := by
  cases h with
  | rule halternatives =>
    exact ⟨by simpa [Item.isImported] using halternatives.ne_nil, halternatives.nil_notMem⟩
  | token halternatives =>
    exact ⟨by simpa [Item.isImported] using halternatives.ne_nil, halternatives.nil_notMem⟩
  | imported => exact ⟨by simp [Item.isImported], by simp⟩

theorem MakesItems.wellFormed {ps : List Phrase} {items : List Item} (h : MakesItems ps items) :
    ∀ item ∈ items, item.WellFormed := by
  induction h with
  | nil => nofun
  | cons hfirst _ ih => exact List.forall_mem_cons.2 ⟨hfirst.wellFormed, ih⟩

theorem MakesAlternatives.item {kind : ItemKind} {ps : List Phrase}
    {alternatives : List (List Rule)} (h : MakesAlternatives kind ps alternatives) (name : String) :
    MakesItem (.heading name kind :: ps) ⟨name, kind, alternatives⟩ := by
  cases kind with
  | rule => exact .rule h
  | token => exact .token h
  | imported =>
    -- An imported token has no alternatives.
    cases h with
    | last halternative => cases halternative
    | cons hfirst _ => cases hfirst

theorem MakesItem.single {ps : List Phrase} {item : Item} (h : MakesItem ps item) :
    MakesItems ps [item] := by
  rw [← List.append_nil ps]
  exact .cons h .nil

/-! ### Phrases and clauses -/

/-- The clause that a phrase is read as, if it can be read. -/
def Phrase.clause? : Phrase → Option Clause
  | token name => some (.item name .token)
  | imported name => some (.item name .imported)
  | start name => some (.start name)
  | braces inner =>
    match braced inner with
    | .ok r => some (.body (.delimiter .braceOpen) (.ok (.rule r)))
    | .error _ => none
  | word w =>
    match single .start w with
    | .faulty _ => none
    | c => some c

@[simp]
theorem Phrase.clause?_opening (kind : BracketKind) :
    (Phrase.word (.delimiter kind.opening)).clause? =
      some (.body (.delimiter kind.opening) (.ok (.opening kind))) := by
  cases kind <;> rfl

@[simp]
theorem Phrase.clause?_closing (kind : BracketKind) :
    (Phrase.word (.delimiter kind.closing)).clause? =
      some (.body (.delimiter kind.closing) (.ok (.closing kind))) := by
  cases kind <;> rfl

/-- The phrases make a rule that may stand outside of tokens, or else an alternative of a token. -/
def Offers (ps : List Phrase) (r : Rule) : Prop := MakesRule ps r ∨ MakesAlternative .token ps [r]

/-- What a phrase is and what it makes, by the clause that it is read as. -/
inductive Phrase.Says : Phrase → Clause → Prop
  | item (name : String) (kind : ItemKind) : Says (.heading name kind) (.item name kind)
  | start (name : String) : Says (.start name) (.start name)
  | rule {phrase : Phrase} {word : Word} {r : Rule} (hr : Offers [phrase] r) :
      Says phrase (.body word (.ok (.rule r)))
  | bar (word : Word) : Says (.word (.delimiter .bar)) (.body word (.ok .bar))
  | opening (word : Word) (kind : BracketKind) :
      Says (.word (.delimiter kind.opening)) (.body word (.ok (.opening kind)))
  | closing (word : Word) (kind : BracketKind) :
      Says (.word (.delimiter kind.closing)) (.body word (.ok (.closing kind)))

theorem says_of_braced {inner : Word} {r : Rule} (h : braced inner = .ok r) (word : Word) :
    (Phrase.braces inner).Says (.body word (.ok (.rule r))) := by
  unfold braced at h
  split at h
  next mark raw =>
    dsimp only at h
    split at h
    next p hp =>
      cases h
      exact .rule (.inr (.pattern hp))
    next => cases h
  next =>
    cases h
    exact .rule (.inl .empty)
  next =>
    cases h
    exact .rule (.inl .endOfInput)
  next => cases h

theorem says_of_clause? {phrase : Phrase} {c : Clause} (h : phrase.clause? = some c) :
    phrase.Says c := by
  cases phrase with
  | token name =>
    cases h
    exact .item name .token
  | imported name =>
    cases h
    exact .item name .imported
  | start name =>
    cases h
    exact .start name
  | braces inner =>
    cases hbraced : braced inner with
    | error fault => simp [Phrase.clause?, hbraced] at h
    | ok r =>
      obtain rfl : Clause.body (.delimiter .braceOpen) (.ok (.rule r)) = c := by
        simpa [Phrase.clause?, hbraced] using h
      exact says_of_braced hbraced _
  | word w =>
    cases w with
    | keyword k => cases h
    | itemName s =>
      cases h
      exact .item s .rule
    | name s =>
      cases h
      exact .rule (.inl .name)
    | literal mark raw =>
      cases h
      exact .rule (.inl .literal)
    | invalid s => cases h
    | delimiter d =>
      cases d with
      | bar =>
        cases h
        exact .bar _
      | parenOpen =>
        cases h
        exact .opening _ .optional
      | squareOpen =>
        cases h
        exact .opening _ .repeated
      | parenClose =>
        cases h
        exact .closing _ .optional
      | squareClose =>
        cases h
        exact .closing _ .repeated
      | braceOpen => cases h
      | braceClose => cases h
      | colon => cases h

/-- The phrases are read as the clauses, one by one. -/
def ReadAs (phrases : List Phrase) (cs : List (Position × Clause)) : Prop :=
  cs.map (fun c => some c.2) = phrases.map Phrase.clause?

theorem readAs_nil_iff {cs : List (Position × Clause)} : ReadAs [] cs ↔ cs = [] := by
  simp [ReadAs]

theorem readAs_cons_iff {phrase : Phrase} {phrases : List Phrase} {cs : List (Position × Clause)} :
    ReadAs (phrase :: phrases) cs ↔
      ∃ p c rest, cs = (p, c) :: rest ∧ phrase.clause? = some c ∧ ReadAs phrases rest := by
  unfold ReadAs
  constructor
  · intro h
    cases cs with
    | nil => cases h
    | cons c rest =>
      obtain ⟨hc, hrest⟩ := List.cons.inj h
      exact ⟨c.1, c.2, rest, rfl, hc.symm, hrest⟩
  · rintro ⟨p, c, rest, rfl, hc, hrest⟩
    rw [List.map_cons, List.map_cons, hc, hrest]

theorem readAs_append_iff {first second : List Phrase} {cs : List (Position × Clause)} :
    ReadAs (first ++ second) cs ↔ ∃ as bs, cs = as ++ bs ∧ ReadAs first as ∧ ReadAs second bs := by
  unfold ReadAs
  rw [List.map_append, List.map_eq_append_iff]

/-- A clause that carries no error. -/
def Clause.IsReadable : Clause → Prop
  | .body _ (.error _) => False
  | .faulty _ => False
  | _ => True

/-- Where a single word stands matters only to its error. -/
theorem single_cases (p q : Position) (w : Word) :
    (∃ e e', single p w = .faulty e ∧ single q w = .faulty e') ∨
      single p w = single q w ∧ (single q w).IsReadable := by
  cases w with
  | delimiter d => cases d <;> simp [single, Clause.IsReadable]
  | _ => simp [single, Clause.IsReadable]

/-- A single word that can be read is read as its clause, at any place. -/
theorem clause?_word_iff {p : Position} {w : Word} {c : Clause} :
    (Phrase.word w).clause? = some c ↔ single p w = c ∧ c.IsReadable := by
  rw [Phrase.clause?.eq_5]
  rcases single_cases .start p w with ⟨e, e', he, he'⟩ | ⟨heq, hreadable⟩
  · rw [he, he']
    refine ⟨nofun, ?_⟩
    rintro ⟨rfl, hfaulty⟩
    exact hfaulty.elim
  · rw [heq]
    split
    next e he =>
      rw [he] at hreadable
      exact hreadable.elim
    next =>
      refine ⟨fun h => ?_, fun h => congrArg some h.1⟩
      obtain rfl := Option.some.inj h
      exact ⟨rfl, hreadable⟩

/-- Clauses without an error are the phrases of their words. -/
theorem exists_readAs_clauses (ws : List (Position × Word))
    (h : ∀ c ∈ clauses ws, c.2.IsReadable) :
    ∃ phrases, ws.map Prod.snd = phrases.flatMap Phrase.words ∧ ReadAs phrases (clauses ws) := by
  fun_induction clauses ws with
  | case1 => exact ⟨[], rfl, rfl⟩
  | case2 p q s rest ih =>
    obtain ⟨phrases, hwords, hread⟩ := ih fun c hc => h c (List.mem_cons_of_mem _ hc)
    exact ⟨.token s :: phrases, by simp [Phrase.words, hwords],
      readAs_cons_iff.2 ⟨p, _, _, rfl, rfl, hread⟩⟩
  | case3 p q s rest ih =>
    obtain ⟨phrases, hwords, hread⟩ := ih fun c hc => h c (List.mem_cons_of_mem _ hc)
    exact ⟨.imported s :: phrases, by simp [Phrase.words, hwords],
      readAs_cons_iff.2 ⟨p, _, _, rfl, rfl, hread⟩⟩
  | case4 p q s rest ih =>
    obtain ⟨phrases, hwords, hread⟩ := ih fun c hc => h c (List.mem_cons_of_mem _ hc)
    exact ⟨.start s :: phrases, by simp [Phrase.words, hwords],
      readAs_cons_iff.2 ⟨q, _, _, rfl, rfl, hread⟩⟩
  | case5 => exact absurd (h _ List.mem_cons_self) id
  | case6 p q w _ rest r hbraced ih =>
    obtain ⟨phrases, hwords, hread⟩ := ih fun c hc => h c (List.mem_cons_of_mem _ hc)
    refine ⟨.braces w :: phrases, by simp [Phrase.words, hwords],
      readAs_cons_iff.2 ⟨p, _, _, rfl, ?_, hread⟩⟩
    simp [Phrase.clause?, hbraced]
  | case7 => exact absurd (h _ List.mem_cons_self) id
  | case8 => exact absurd (h _ List.mem_cons_self) id
  | case9 p w rest _ _ _ _ _ _ ih =>
    obtain ⟨phrases, hwords, hread⟩ := ih fun c hc => h c (List.mem_cons_of_mem _ hc)
    have hw : (Phrase.word w).clause? = some (single p w) :=
      clause?_word_iff.2 ⟨rfl, h _ List.mem_cons_self⟩
    exact ⟨.word w :: phrases, by simp [Phrase.words, hwords],
      readAs_cons_iff.2 ⟨p, _, _, rfl, hw, hread⟩⟩

/-- The words of a readable phrase come to its clause, whatever follows. -/
theorem clauses_of_clause? {phrase : Phrase} {c : Clause} (hphrase : phrase.clause? = some c)
    {ws : List (Position × Word)} (hwords : ws.map Prod.snd = phrase.words)
    (rest : List (Position × Word)) : ∃ p, clauses (ws ++ rest) = (p, c) :: clauses rest := by
  match phrase, ws, hwords with
  | .token name, [(p, _), (q, _)], rfl =>
    cases hphrase
    exact ⟨p, rfl⟩
  | .imported name, [(p, _), (q, _)], rfl =>
    cases hphrase
    exact ⟨p, rfl⟩
  | .start name, [(p, _), (q, _)], rfl =>
    cases hphrase
    exact ⟨q, rfl⟩
  | .braces inner, [(p, _), (q, _), (_, _)], rfl =>
    cases hbraced : braced inner with
    | error fault => simp [Phrase.clause?, hbraced] at hphrase
    | ok r =>
      obtain rfl : Clause.body (.delimiter .braceOpen) (.ok (.rule r)) = c := by
        simpa [Phrase.clause?, hbraced] using hphrase
      exact ⟨p, by simp [clauses, hbraced]⟩
  | .word w, [(p, _)], rfl =>
    obtain ⟨rfl, hreadable⟩ := (clause?_word_iff (p := p)).1 hphrase
    refine ⟨p, ?_⟩
    cases w with
    | keyword k => exact hreadable.elim
    | delimiter d =>
      cases d with
      | braceOpen => exact hreadable.elim
      | _ => rfl
    | _ => rfl

mutual

theorem MakesRule.readable {ps : List Phrase} {r : Rule} :
    MakesRule ps r → ∀ phrase ∈ ps, phrase.clause?.isSome
  | .name => by simp [Phrase.clause?, single]
  | .literal => by simp [Phrase.clause?, single]
  | .empty => by simp [Phrase.clause?, braced]
  | .endOfInput => by simp [Phrase.clause?, braced]
  | .bracket hrules _ => by simpa [or_imp, forall_and] using hrules.readable

theorem MakesRules.readable {ps : List Phrase} {rules : List Rule} :
    MakesRules ps rules → ∀ phrase ∈ ps, phrase.clause?.isSome
  | .nil => nofun
  | .cons hfirst hrest => List.forall_mem_append.2 ⟨hfirst.readable, hrest.readable⟩

end

theorem MakesAlternative.readable {kind : ItemKind} {ps : List Phrase} {rules : List Rule}
    (h : MakesAlternative kind ps rules) : ∀ phrase ∈ ps, phrase.clause?.isSome := by
  cases h with
  | rules hrules _ => exact hrules.readable
  | literal => simp [Phrase.clause?, single]
  | pattern hp => simp [Phrase.clause?, braced, hp]

theorem MakesAlternatives.readable {kind : ItemKind} {ps : List Phrase}
    {alternatives : List (List Rule)} (h : MakesAlternatives kind ps alternatives) :
    ∀ phrase ∈ ps, phrase.clause?.isSome := by
  induction h with
  | last halternative => exact halternative.readable
  | cons hfirst _ ih =>
    exact List.forall_mem_append.2 ⟨hfirst.readable, List.forall_mem_cons.2 ⟨rfl, ih⟩⟩

theorem MakesItem.readable {ps : List Phrase} {item : Item} (h : MakesItem ps item) :
    ∀ phrase ∈ ps, phrase.clause?.isSome := by
  cases h with
  | rule halternatives => exact List.forall_mem_cons.2 ⟨rfl, halternatives.readable⟩
  | token halternatives => exact List.forall_mem_cons.2 ⟨rfl, halternatives.readable⟩
  | imported => simp [Phrase.clause?]

/-- Phrases that make items can be read, one by one. -/
theorem MakesItems.readable {ps : List Phrase} {items : List Item} (h : MakesItems ps items) :
    ∀ phrase ∈ ps, phrase.clause?.isSome := by
  induction h with
  | nil => nofun
  | cons hfirst _ ih => exact List.forall_mem_append.2 ⟨hfirst.readable, ih⟩

/-- Words that are cut into readable phrases come to the clauses of these. -/
theorem readAs_clauses {phrases : List Phrase}
    (hreadable : ∀ phrase ∈ phrases, phrase.clause?.isSome)
    {ws : List (Position × Word)} (hwords : ws.map Prod.snd = phrases.flatMap Phrase.words) :
    ReadAs phrases (clauses ws) := by
  induction phrases generalizing ws with
  | nil =>
    obtain rfl := List.map_eq_nil_iff.1 hwords
    rfl
  | cons phrase phrases ih =>
    obtain ⟨hphrase, hphrases⟩ := List.forall_mem_cons.1 hreadable
    rw [List.flatMap_cons] at hwords
    obtain ⟨first, rest, rfl, hfirst, hrest⟩ := List.map_eq_append_iff.1 hwords
    obtain ⟨c, hc⟩ := Option.isSome_iff_exists.1 hphrase
    obtain ⟨p, hclauses⟩ := clauses_of_clause? hc hfirst rest
    exact readAs_cons_iff.2 ⟨p, c, _, hclauses, hc, ih hphrases hrest⟩

end BranchLR.GrammarText
