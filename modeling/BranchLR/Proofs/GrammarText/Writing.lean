import BranchLR.Proofs.GrammarText.Signs
import BranchLR.Proofs.GrammarText.Spelling

/-!
# How grammars are written

A grammar is written as the phrases of its signs, with white space behind each of them. A phrase is
legible when a text that begins with it has its words first and then those of what comes after the
white space. The phrases of a grammar that was read from a text are legible, with one exception:
the patterns in which a double quote stands behind an odd number of backslashes.
-/

namespace BranchLR

namespace GrammarText

/-- A phrase as it is written. -/
def Phrase.text : Phrase → List Char
  | token name => Keyword.token.spelling.toList ++ ' ' :: (name.toList ++ [':'])
  | imported name => Keyword.imported.spelling.toList ++ ' ' :: name.toList
  | start name => Keyword.start.spelling.toList ++ ' ' :: name.toList
  | braces inner => Delimiter.braceOpen.char :: (inner.render.toList ++ [Delimiter.braceClose.char])
  | word w => w.render.toList

/-- The phrases are written one after the other, with white space behind each of them. -/
inductive Spaced : List Phrase → List Char → Prop
  | nil : Spaced [] []
  | blank {c : Char} {ps : List Phrase} {cs : List Char} (hc : isBlank c = true)
      (h : Spaced ps cs) : Spaced ps (c :: cs)
  | phrase (phrase : Phrase) {c : Char} {ps : List Phrase} {cs : List Char} (hc : isBlank c = true)
      (h : Spaced ps (c :: cs)) : Spaced (phrase :: ps) (phrase.text ++ c :: cs)

section Writing

variable [RegexLibrary]

/-- The phrases of a grammar in the order in which they are written. -/
def writtenPhrases (g : Grammar) : List Phrase :=
  (g.items.flatMap signsOfItem).map Sign.phrase ++ (g.start.map Phrase.start).toList

theorem text_literal (text : String) :
    (Sign.literal text).phrase.text = (Rule.literal text).render.toList := by
  simp [Sign.phrase, Phrase.text, Word.render, Rule.render, toList_betweenMarks]

theorem text_pattern (p : Pattern) :
    (Sign.pattern p).phrase.text = (Rule.pattern p).render.toList := by
  simp [Sign.phrase, Phrase.text, Word.render, Rule.render, Pattern.render, toList_betweenMarks,
    Delimiter.char]

theorem toList_render_bracket (kind : BracketKind) (body : List Rule) :
    (kind.rule body).render.toList =
      (Sign.opening kind).phrase.text ++ ' ' :: ((Rule.renderAll body).toList ++
        ' ' :: (Sign.closing kind).phrase.text) := by
  cases kind <;> simp [BracketKind.rule, Rule.render, Sign.phrase, Phrase.text, Word.render,
    BracketKind.opening, BracketKind.closing, Delimiter.char]

/-- A rule of one sign is written as the phrase of that sign. -/
theorem Spaced.leaf {r : Rule} {s : Sign} (hsigns : signsOfRule r = [s])
    (htext : s.phrase.text = r.render.toList) {c : Char} {ps : List Phrase} {cs : List Char}
    (hc : isBlank c = true) (h : Spaced ps (c :: cs)) :
    Spaced ((signsOfRule r).map Sign.phrase ++ ps) (r.render.toList ++ c :: cs) := by
  rw [hsigns, ← htext]
  exact .phrase s.phrase hc h

/-- A bracket is written as its ends around the rules inside. -/
theorem Spaced.bracket (kind : BracketKind) {body : List Rule} {c : Char} {ps : List Phrase}
    {cs : List Char} (hc : isBlank c = true) (h : Spaced ps (c :: cs))
    (hbody : ∀ {ps cs}, Spaced ps (' ' :: cs) → Spaced ((signsOfRules body).map Sign.phrase ++ ps)
      ((Rule.renderAll body).toList ++ ' ' :: cs)) :
    Spaced ((signsOfRule (kind.rule body)).map Sign.phrase ++ ps)
      ((kind.rule body).render.toList ++ c :: cs) := by
  have hclosing := Spaced.blank (c := ' ') (by decide) (.phrase (Sign.closing kind).phrase hc h)
  have hopening := Spaced.phrase (Sign.opening kind).phrase (c := ' ') (by decide)
    (.blank (by decide) (hbody hclosing))
  simpa [signsOfRule_bracket, toList_render_bracket] using hopening

mutual

/-- A rule is written as the phrases of its signs, whatever follows it. -/
theorem spaced_rule {c : Char} {ps : List Phrase} {cs : List Char} (hc : isBlank c = true)
    (h : Spaced ps (c :: cs)) : ∀ r : Rule,
    Spaced ((signsOfRule r).map Sign.phrase ++ ps) (r.render.toList ++ c :: cs)
  | .item name => .leaf (by rw [signsOfRule]) (by rw [Rule.render]; rfl) hc h
  | .literal text => .leaf (by rw [signsOfRule]) (text_literal text) hc h
  | .pattern p => .leaf (by rw [signsOfRule]) (text_pattern p) hc h
  | .empty => .leaf (by rw [signsOfRule]) (by rw [Rule.render]; rfl) hc h
  | .endOfInput => .leaf (by rw [signsOfRule]) (by rw [Rule.render]; rfl) hc h
  | .optional body => .bracket .optional hc h fun h => spaced_rules (by decide) h body
  | .repeated body => .bracket .repeated hc h fun h => spaced_rules (by decide) h body

theorem spaced_rules {c : Char} {ps : List Phrase} {cs : List Char} (hc : isBlank c = true)
    (h : Spaced ps (c :: cs)) : ∀ rules : List Rule,
    Spaced ((signsOfRules rules).map Sign.phrase ++ ps) ((Rule.renderAll rules).toList ++ c :: cs)
  | [] => by simpa [signsOfRules, Rule.renderAll] using h
  | [r] => by simpa [signsOfRules, Rule.renderAll] using spaced_rule hc h r
  | r :: s :: rules => by
    have hrest := spaced_rules hc h (s :: rules)
    have hfirst := spaced_rule (c := ' ') (by decide) (.blank (by decide) hrest) r
    simpa [signsOfRules, Rule.renderAll] using hfirst

end

/-- White space stands before alternatives and behind them. -/
theorem exists_blank_renderAlternatives {c : Char} (hc : isBlank c = true) (cs : List Char)
    (alternatives : List (List Rule)) :
    ∃ b rest, isBlank b = true ∧
      (Item.renderAlternatives alternatives).toList ++ c :: cs = b :: rest := by
  fun_cases Item.renderAlternatives alternatives with
  | case1 => exact ⟨c, cs, hc, rfl⟩
  | case2 => exact ⟨' ', _, by decide, by simp; rfl⟩
  | case3 => exact ⟨' ', _, by decide, by simp; rfl⟩

/-- A phrase stands before alternatives. -/
theorem Spaced.before_alternatives (phrase : Phrase) {c : Char} (hc : isBlank c = true)
    {ps : List Phrase} {cs : List Char} {alternatives : List (List Rule)}
    (h : Spaced ps ((Item.renderAlternatives alternatives).toList ++ c :: cs)) :
    Spaced (phrase :: ps)
      (phrase.text ++ ((Item.renderAlternatives alternatives).toList ++ c :: cs)) := by
  obtain ⟨b, rest, hb, heq⟩ := exists_blank_renderAlternatives hc cs alternatives
  rw [heq] at h ⊢
  exact .phrase phrase hb h

theorem spaced_alternatives {c : Char} {ps : List Phrase} {cs : List Char} (hc : isBlank c = true)
    (h : Spaced ps (c :: cs)) (alternatives : List (List Rule)) :
    Spaced ((signsOfAlternatives alternatives).map Sign.phrase ++ ps)
      ((Item.renderAlternatives alternatives).toList ++ c :: cs) := by
  fun_induction Item.renderAlternatives alternatives with
  | case1 => simpa [signsOfAlternatives] using h
  | case2 rules => simpa [signsOfAlternatives] using .blank (by decide) (spaced_rules hc h rules)
  | case3 rules others hne ih =>
    have hbar := Spaced.before_alternatives (Sign.phrase .bar) hc ih
    have hrules := spaced_rules (c := ' ') (by decide) (.blank (by decide) hbar) rules
    have htext : (Sign.phrase .bar).text = ['|'] := rfl
    rw [signsOfAlternatives_cons hne]
    simpa [htext] using Spaced.blank (c := ' ') (by decide) hrules

theorem spaced_item {ps : List Phrase} {cs : List Char} (h : Spaced ps cs) {item : Item}
    (hitem : item.WellFormed) :
    Spaced ((signsOfItem item).map Sign.phrase ++ ps) (item.render.toList ++ '\n' :: cs) := by
  have halternatives := spaced_alternatives (c := '\n') (by decide) (.blank (by decide) h)
    item.alternatives
  have hheading := halternatives.before_alternatives (.heading item.name item.kind) (by decide)
  obtain ⟨name, kind, alternatives⟩ := item
  cases kind with
  | rule =>
    simpa [signsOfItem, Item.render, Sign.phrase, Phrase.heading, Phrase.text, Word.render]
      using hheading
  | token =>
    simpa [signsOfItem, Item.render, Sign.phrase, Phrase.heading, Phrase.text, Keyword.spelling]
      using hheading
  | imported =>
    obtain rfl : alternatives = [] := hitem.imported_iff.1 rfl
    simpa [signsOfItem, Item.render, Item.renderAlternatives, signsOfAlternatives, Sign.phrase,
      Phrase.heading, Phrase.text, Keyword.spelling] using hheading

theorem spaced_items {ps : List Phrase} {cs : List Char} (h : Spaced ps cs) {items : List Item}
    (hitems : ∀ item ∈ items, item.WellFormed) :
    Spaced ((items.flatMap signsOfItem).map Sign.phrase ++ ps)
      ((Grammar.renderItems items).toList ++ cs) := by
  induction items with
  | nil => simpa [Grammar.renderItems] using h
  | cons item items ih =>
    obtain ⟨hitem, hitems⟩ := List.forall_mem_cons.1 hitems
    simpa [Grammar.renderItems] using spaced_item (ih hitems) hitem

/-- A grammar is written as its phrases. -/
theorem spaced_render (g : Grammar) : Spaced (writtenPhrases g) g.render.toList := by
  rw [Grammar.render, String.toList_append]
  refine spaced_items ?_ g.wellFormed
  cases g.start with
  | none => exact .nil
  | some name =>
    have hstart := Spaced.phrase (.start name) (c := '\n') (by decide) (.blank (by decide) .nil)
    simpa [Phrase.text, Keyword.spelling] using hstart

end Writing

/-! ### Reading what is written -/

theorem colonAhead_name {name : String} (h : isName name.toList = true) (hne : name ≠ "")
    (cs : List Char) : colonAhead (name.toList ++ cs) = false := by
  obtain ⟨c, tail, heq⟩ := List.exists_cons_of_ne_nil (l := name.toList) (by simpa using hne)
  have hc : isWordPart c = true := isWordPart_of_isName h c (by simp [heq])
  have hblank : isBlank c = false := by
    rw [Bool.eq_false_iff]
    intro hblank
    cases hc.symm.trans (isWordPart_of_isBlank hblank)
  have hcolon : c ≠ ':' := by
    rintro rfl
    exact absurd hc (by decide)
  rw [heq, List.cons_append, colonAhead_cons_of_not_isBlank hblank]
  simpa using hcolon

theorem toList_render_literal (mark : Char) (raw : String) (cs : List Char) :
    (Word.literal mark raw).render.toList ++ cs = mark :: raw.toList ++ mark :: cs := by
  simp [Word.render]

variable [BracketSet]

/-- A text that begins with the phrase has its words first. -/
structure Phrase.Legible (phrase : Phrase) : Prop where
  noColon : ∀ cs, colonAhead (phrase.text ++ cs) = false
  reads : ∀ {c cs}, isBlank c = true → colonAhead cs = false →
    spoken (phrase.text ++ c :: cs) = (spoken cs).map (phrase.words ++ ·)

theorem spoken_spelling_of_isBlank {name : String} (h : isName name.toList = true) (hne : name ≠ "")
    {c : Char} (hc : isBlank c = true) {cs : List Char} (hcs : colonAhead cs = false) :
    spoken (name.toList ++ c :: cs) = (spoken cs).map (.ofSpelling name :: ·) := by
  have hends : ∀ d ∈ (c :: cs).head?, isWordPart d = false := by
    rintro _ ⟨⟩
    exact isWordPart_of_isBlank hc
  rw [spoken_spelling h hne hends (by rwa [colonAhead_cons_of_isBlank hc]),
    spoken_cons_of_isBlank hc]

theorem legible_reference {name : String} (h : Word.Spelled (.name name)) :
    (Phrase.word (.name name)).Legible := by
  obtain ⟨hname, hne, hword⟩ := h
  refine ⟨colonAhead_name hname hne, fun hc hcs => ?_⟩
  exact (spoken_spelling_of_isBlank hname hne hc hcs).trans (by rw [hword]; rfl)

theorem legible_itemName {name : String} (h : Word.Spelled (.itemName name)) :
    (Phrase.word (.itemName name)).Legible := by
  obtain ⟨hname, hne⟩ := h
  have htext : (Phrase.word (.itemName name)).text = name.toList ++ [':'] := by
    simp [Phrase.text, Word.render]
  constructor
  · intro cs
    rw [htext, List.append_assoc]
    exact colonAhead_name hname hne _
  · intro c cs hc _
    rw [htext, List.append_assoc, List.singleton_append, spoken_itemName hname hne,
      spoken_cons_of_isBlank hc]
    rfl

/-- A keyword is read before a name. -/
theorem spoken_keyword (k : Keyword) {name : String} (h : isName name.toList = true)
    (hne : name ≠ "") (cs : List Char) :
    spoken (k.spelling.toList ++ ' ' :: (name.toList ++ cs)) =
      (spoken (name.toList ++ cs)).map (.keyword k :: ·) := by
  have hname : isName k.spelling.toList = true := by cases k <;> rfl
  have hspelling : k.spelling ≠ "" := by cases k <;> decide
  rw [spoken_spelling_of_isBlank hname hspelling (by decide) (colonAhead_name h hne cs)]
  cases k <;> rfl

theorem spoken_keyword_reference (k : Keyword) {name : String} (h : Word.Spelled (.name name))
    {c : Char} (hc : isBlank c = true) {cs : List Char} (hcs : colonAhead cs = false) :
    spoken (k.spelling.toList ++ ' ' :: (name.toList ++ c :: cs)) =
      (spoken cs).map ([.keyword k, .name name] ++ ·) := by
  obtain ⟨hname, hne, hword⟩ := h
  rw [spoken_keyword k hname hne, spoken_spelling_of_isBlank hname hne hc hcs, hword,
    Option.map_map]
  rfl

theorem legible_token {name : String} (h : Word.Spelled (.itemName name)) :
    (Phrase.token name).Legible := by
  obtain ⟨hname, hne⟩ := h
  constructor
  · intro cs
    rfl
  · intro c cs hc _
    rw [Phrase.text, List.append_assoc, List.cons_append, List.append_assoc,
      spoken_keyword .token hname hne, List.singleton_append, spoken_itemName hname hne,
      spoken_cons_of_isBlank hc, Option.map_map]
    rfl

theorem legible_imported {name : String} (h : Word.Spelled (.name name)) :
    (Phrase.imported name).Legible := by
  refine ⟨fun _ => rfl, fun hc hcs => ?_⟩
  rw [Phrase.text, List.append_assoc]
  exact spoken_keyword_reference .imported h hc hcs

theorem legible_start {name : String} (h : Word.Spelled (.name name)) :
    (Phrase.start name).Legible := by
  refine ⟨fun _ => rfl, fun hc hcs => ?_⟩
  rw [Phrase.text, List.append_assoc]
  exact spoken_keyword_reference .start h hc hcs

theorem legible_delimiter {d : Delimiter} (hd : d ≠ .colon) :
    (Phrase.word (.delimiter d)).Legible := by
  have htext : (Phrase.word (.delimiter d)).text = [d.char] := by
    simp [Phrase.text, Word.render]
  constructor
  · intro cs
    rw [htext]
    cases d with
    | colon => exact absurd rfl hd
    | _ => rfl
  · intro c cs hc _
    rw [htext, List.singleton_append, spoken_delimiter, spoken_cons_of_isBlank hc]
    rfl

theorem spoken_literal {mark : Char} {raw : String} (h : Word.Spelled (.literal mark raw))
    (cs : List Char) : spoken ((Word.literal mark raw).render.toList ++ cs) =
      (spoken cs).map (.literal mark raw :: ·) := by
  rw [toList_render_literal, spoken_quotation h.1 h.2, String.ofList_toList]

theorem legible_literal {mark : Char} {raw : String} (h : Word.Spelled (.literal mark raw)) :
    (Phrase.word (.literal mark raw)).Legible := by
  constructor
  · intro cs
    rw [Phrase.text, toList_render_literal]
    have hmark : mark = '\'' ∨ mark = '"' := by simpa [isQuote] using h.1
    rcases hmark with rfl | rfl <;> rfl
  · intro c cs hc _
    rw [Phrase.text, spoken_literal h, spoken_cons_of_isBlank hc]
    rfl

/-- A word that is read before the brace that closes is read between braces. -/
theorem legible_braces {inner : Word}
    (h : ∀ cs, spoken (inner.render.toList ++ Delimiter.braceClose.char :: cs) =
      (spoken (Delimiter.braceClose.char :: cs)).map (inner :: ·)) :
    (Phrase.braces inner).Legible := by
  constructor
  · intro cs
    rfl
  · intro c cs hc _
    rw [Phrase.text, List.cons_append, List.append_assoc, List.singleton_append, spoken_delimiter,
      h, spoken_delimiter, spoken_cons_of_isBlank hc]
    simp [Function.comp_def, Phrase.words]

/-- Legible phrases at the beginning of a text are its first words, if no colon follows them. -/
theorem Spaced.exists_spoken {ps qs : List Phrase} {cs : List Char} (h : Spaced (ps ++ qs) cs)
    (hps : ∀ phrase ∈ ps, phrase.Legible) :
    ∃ rest, Spaced qs rest ∧ (colonAhead rest = false →
      colonAhead cs = false ∧ spoken cs = (spoken rest).map (ps.flatMap Phrase.words ++ ·)) := by
  generalize hall : ps ++ qs = all at h
  induction h generalizing ps with
  | nil =>
    obtain ⟨rfl, rfl⟩ := List.append_eq_nil_iff.1 hall
    exact ⟨[], .nil, fun _ => ⟨rfl, by simp⟩⟩
  | @blank c _ cs hc _ ih =>
    obtain ⟨rest, hrest, hread⟩ := ih hps hall
    refine ⟨rest, hrest, fun hcolon => ?_⟩
    rw [colonAhead_cons_of_isBlank hc, spoken_cons_of_isBlank hc]
    exact hread hcolon
  | @phrase phrase c _ cs hc h ih =>
    cases ps with
    | nil =>
      obtain rfl : qs = phrase :: _ := hall
      exact ⟨_, .phrase phrase hc h, fun hcolon => ⟨hcolon, by simp⟩⟩
    | cons p ps =>
      obtain ⟨rfl, rfl⟩ := List.cons.inj hall
      obtain ⟨hp, hps⟩ := List.forall_mem_cons.1 hps
      obtain ⟨rest, hrest, hread⟩ := ih hps rfl
      refine ⟨rest, hrest, fun hcolon => ⟨hp.noColon _, ?_⟩⟩
      obtain ⟨hcolon', hspoken⟩ := hread hcolon
      rw [colonAhead_cons_of_isBlank hc] at hcolon'
      rw [spoken_cons_of_isBlank hc] at hspoken
      rw [hp.reads hc hcolon', hspoken]
      simp [Function.comp_def]

/-- A text without phrases has no words. -/
theorem Spaced.spoken_nil {cs : List Char} (h : Spaced [] cs) :
    colonAhead cs = false ∧ spoken cs = some [] := by
  generalize hall : ([] : List Phrase) = all at h
  induction h with
  | nil => exact ⟨rfl, GrammarText.spoken_nil⟩
  | blank hc _ ih =>
    rw [colonAhead_cons_of_isBlank hc, spoken_cons_of_isBlank hc]
    exact ih hall
  | phrase => cases hall

/-- The words of a text of legible phrases are those of the phrases. -/
theorem Spaced.spoken_eq {ps : List Phrase} {cs : List Char} (h : Spaced ps cs)
    (hps : ∀ phrase ∈ ps, phrase.Legible) : spoken cs = some (ps.flatMap Phrase.words) := by
  rw [← List.append_nil ps] at h
  obtain ⟨rest, hrest, hread⟩ := h.exists_spoken hps
  obtain ⟨hcolon, hnil⟩ := hrest.spoken_nil
  rw [(hread hcolon).2, hnil]
  simp

/-- White space before the first phrase of a text makes no difference. -/
theorem Spaced.exists_text {phrase : Phrase} {ps : List Phrase} {cs : List Char}
    (h : Spaced (phrase :: ps) cs) :
    ∃ rest, colonAhead cs = colonAhead (phrase.text ++ rest) ∧
      spoken cs = spoken (phrase.text ++ rest) := by
  generalize hall : phrase :: ps = all at h
  induction h with
  | nil => cases hall
  | blank hc _ ih =>
    rw [colonAhead_cons_of_isBlank hc, spoken_cons_of_isBlank hc]
    exact ih hall
  | @phrase _ c _ cs _ _ _ =>
    cases hall
    exact ⟨c :: cs, rfl, rfl⟩

end GrammarText

end BranchLR
