import BranchLR.Text.BracketPairs
import BranchLR.Pattern.Engine
import BranchLR.Proofs.GrammarText.Acceptance
import BranchLR.Proofs.GrammarText.Writing

/-!
# Reading back what is written

A grammar that was read from a text is written as a text that is read as the same grammar, unless
one of its patterns has a double quote behind an odd number of backslashes. If there is no such
pattern, every sign of the grammar is written as a legible phrase with the same sign. If there is
one, take the first. All phrases before it are read as they were written, but the quotation of the
pattern ends at one of its own double quotes. So what is read in its place, if anything, is a
pattern with fewer double quotes.
-/

namespace BranchLR

section Library

variable [RegexLibrary]

theorem Pattern.ofSource_source (p : Pattern) : Pattern.ofSource p.source = .ok p := by
  unfold Pattern.ofSource
  split
  next herror => cases p.compile_eq.symm.trans herror
  next => exact congrArg Except.ok (Pattern.ext_source rfl)

namespace GrammarText

/-- What the signs of a grammar that was read from a text are like. -/
def Sign.Proper : Sign → Prop
  | heading name .imported => Word.Spelled (.name name)
  | heading name _ => Word.Spelled (.itemName name)
  | reference name => Word.Spelled (.name name)
  | pattern p => Paired p.source.toList
  | _ => True

theorem Sign.proper_of_sign? {phrase : Phrase} {s : Sign} (h : phrase.sign? = some s)
    (hwords : ∀ w ∈ phrase.words, w.Spelled) : s.Proper := by
  unfold Phrase.sign? at h
  split at h
  -- Only a pattern has to be told from more than the shape of the phrase.
  case h_13 mark raw =>
    obtain ⟨p, hp, rfl⟩ := Option.map_eq_some_iff.1 h
    obtain ⟨hmark, hraw⟩ : Word.Spelled (.literal mark raw) := hwords _ (by simp [Phrase.words])
    rw [Sign.Proper, Pattern.source_of_ofSource (toOption_eq_some_iff.1 hp), patternText,
      String.toList_ofList]
    exact hraw.paired_unescape (ne_backslash_of_isQuote hmark)
  all_goals cases h
  all_goals first
    | trivial
    | simpa [Phrase.words, Word.Spelled, Sign.Proper] using hwords

theorem isSome_clause?_of_sign? {phrase : Phrase} {s : Sign} (h : phrase.sign? = some s) :
    phrase.clause?.isSome := by
  unfold Phrase.sign? at h
  split at h
  case h_13 mark raw =>
    obtain ⟨p, hp, rfl⟩ := Option.map_eq_some_iff.1 h
    simp [Phrase.clause?, braced, toOption_eq_some_iff.1 hp]
  all_goals cases h
  all_goals rfl

theorem start?_phrase (s : Sign) : s.phrase.start? = none := by
  cases s with
  | heading name kind => cases kind <;> rfl
  | _ => rfl

theorem withoutStarts_map_phrase (signs : List Sign) :
    withoutStarts (signs.map Sign.phrase) = signs.map Sign.phrase := by
  rw [withoutStarts, List.filter_eq_self]
  intro phrase hphrase
  obtain ⟨s, -, rfl⟩ := List.mem_map.1 hphrase
  simp [start?_phrase]

theorem withoutStarts_writtenPhrases (g : Grammar) :
    withoutStarts (writtenPhrases g) = (g.items.flatMap signsOfItem).map Sign.phrase := by
  rw [writtenPhrases, withoutStarts_append, withoutStarts_map_phrase]
  cases g.start with
  | none => exact List.append_nil _
  | some name => exact List.append_nil _

theorem lastStart_writtenPhrases (g : Grammar) : lastStart (writtenPhrases g) = g.start := by
  have hnone : lastStart ((g.items.flatMap signsOfItem).map Sign.phrase) = none := by
    simp [lastStart, start?_phrase]
  rw [writtenPhrases, lastStart_append, hnone]
  cases g.start with
  | none => rfl
  | some name => rfl

/-- Different readable phrases cannot begin the same sequence of words. -/
theorem Phrase.words_append_inj {p q : Phrase} (hp : p.clause?.isSome) (hq : q.clause?.isSome)
    {us vs : List Word} (h : p.words ++ us = q.words ++ vs) : p = q ∧ us = vs := by
  -- No keyword and no opening brace is a phrase by itself, so the first word tells them apart.
  have hsingle : ∀ {w : Word}, (Phrase.word w).clause?.isSome →
      (∀ k, w ≠ .keyword k) ∧ w ≠ .delimiter .braceOpen := by
    rintro w hw
    constructor
    · rintro k rfl
      cases hw
    · rintro rfl
      cases hw
  cases p <;> cases q <;> simp [Phrase.words] at h ⊢
  all_goals first
    | exact h
    | exact absurd h.1 ((hsingle hp).1 _)
    | exact absurd h.1 (hsingle hp).2
    | exact absurd h.1.symm ((hsingle hq).1 _)
    | exact absurd h.1.symm (hsingle hq).2

/-- Readable phrases that spell the beginning of a sequence of words are the first phrases of any
readable phrases that spell the whole of it. -/
theorem exists_append_of_flatMap_words {ps qs : List Phrase}
    (hps : ∀ phrase ∈ ps, phrase.clause?.isSome) (hqs : ∀ phrase ∈ qs, phrase.clause?.isSome)
    {ws : List Word} (h : qs.flatMap Phrase.words = ps.flatMap Phrase.words ++ ws) :
    ∃ rest, qs = ps ++ rest ∧ rest.flatMap Phrase.words = ws := by
  induction ps generalizing qs with
  | nil => exact ⟨qs, rfl, h⟩
  | cons p ps ih =>
    obtain ⟨hp, hrest⟩ := List.forall_mem_cons.1 hps
    cases qs with
    | nil => cases p <;> simp [Phrase.words] at h
    | cons q qs =>
      obtain ⟨hq, hqs⟩ := List.forall_mem_cons.1 hqs
      simp only [List.flatMap_cons, List.append_assoc] at h
      obtain ⟨rfl, heq⟩ := Phrase.words_append_inj hq hp h
      obtain ⟨rest, rfl, hws⟩ := ih hrest hqs heq
      exact ⟨rest, rfl, hws⟩

/-- Only a brace begins with a brace. -/
theorem eq_braces_of_words {phrase : Phrase} (hreadable : phrase.clause?.isSome) {w : Word}
    {us vs : List Word} (h : phrase.words ++ us = .delimiter .braceOpen :: w :: vs) :
    phrase = .braces w := by
  cases phrase with
  | braces inner =>
    obtain ⟨rfl, -⟩ := List.cons.inj (List.cons.inj h).2
    rfl
  | word v =>
    obtain rfl := (List.cons.inj h).1
    cases hreadable
  | _ => cases (List.cons.inj h).1

/-- Among signs with an oddly escaped pattern there is a first one. -/
theorem exists_first_oddlyEscaped {signs : List Sign} {p : Pattern} (hp : .pattern p ∈ signs)
    (hodd : OddlyEscaped p.source.toList) :
    ∃ before q after, signs = before ++ .pattern q :: after ∧ OddlyEscaped q.source.toList ∧
      ∀ s ∈ before, ∀ q, s = .pattern q → ¬OddlyEscaped q.source.toList := by
  induction signs with
  | nil => cases hp
  | cons s signs ih =>
    by_cases hs : ∃ q, s = .pattern q ∧ OddlyEscaped q.source.toList
    · obtain ⟨q, rfl, hq⟩ := hs
      exact ⟨[], q, signs, rfl, hq, nofun⟩
    · have hp : .pattern p ∈ signs := by
        rcases List.mem_cons.1 hp with rfl | hp
        · exact absurd ⟨p, rfl, hodd⟩ hs
        · exact hp
      obtain ⟨before, q, after, rfl, hq, hbefore⟩ := ih hp
      refine ⟨s :: before, q, after, rfl, hq, List.forall_mem_cons.2 ⟨?_, hbefore⟩⟩
      exact fun q hsq hq => hs ⟨q, hsq, hq⟩

variable [BracketSet]

/-- The sign is written as a phrase from which it can be told again. -/
structure Sign.Faithful (s : Sign) : Prop where
  legible : s.phrase.Legible
  sign?_phrase : s.phrase.sign? = some s

theorem Sign.Proper.faithful {s : Sign} (h : s.Proper)
    (hodd : ∀ p, s = .pattern p → ¬OddlyEscaped p.source.toList) : s.Faithful := by
  have hinside : ∀ {name : String}, isName name.toList = true → name ≠ "" →
      Word.ofSpelling name = .name name → (Phrase.braces (.name name)).Legible := by
    intro name hname hne hword
    refine legible_braces fun cs => ?_
    have hends : ∀ c ∈ (Delimiter.braceClose.char :: cs).head?, isWordPart c = false := by
      rintro _ ⟨⟩
      rfl
    have hcolon : colonAhead (Delimiter.braceClose.char :: cs) = false := rfl
    have hspoken := spoken_spelling hname hne hends hcolon
    rwa [hword] at hspoken
  cases s with
  | heading name kind =>
    cases kind with
    | rule => exact ⟨legible_itemName h, rfl⟩
    | token => exact ⟨legible_token h, rfl⟩
    | imported => exact ⟨legible_imported h, rfl⟩
  | reference name => exact ⟨legible_reference h, rfl⟩
  | literal text =>
    have hspelled : Word.Spelled
        (.literal '\'' (String.ofList (escapes '\'' true text.toList))) := by
      refine ⟨rfl, ?_⟩
      rw [String.toList_ofList]
      exact (quotable_escapes '\'' text.toList).1
    refine ⟨legible_literal hspelled, ?_⟩
    rw [Sign.phrase, Phrase.sign?, literalText_escapes]
  | pattern p =>
    obtain ⟨hquotable, hunescape⟩ := Paired.quotable_escapes h (hodd p rfl)
    have hspelled : Word.Spelled
        (.literal '"' (String.ofList (escapes '"' false p.source.toList))) := by
      refine ⟨rfl, ?_⟩
      rwa [String.toList_ofList]
    have hsource : patternText '"' (String.ofList (escapes '"' false p.source.toList)) =
        p.source := by
      rw [patternText, String.toList_ofList, hunescape, String.ofList_toList]
    refine ⟨legible_braces fun cs => spoken_literal hspelled _, ?_⟩
    rw [Sign.phrase, Phrase.sign?, hsource, Pattern.ofSource_source]
    rfl
  | empty => exact ⟨hinside rfl (by decide) rfl, rfl⟩
  | endOfInput => exact ⟨hinside rfl (by decide) rfl, rfl⟩
  | bar => exact ⟨legible_delimiter nofun, rfl⟩
  | opening kind => exact ⟨legible_delimiter (by cases kind <;> nofun), Phrase.sign?_opening kind⟩
  | closing kind => exact ⟨legible_delimiter (by cases kind <;> nofun), Phrase.sign?_closing kind⟩

/-! ### Texts and the grammars they stand for -/

/-- A text is read as a grammar exactly when its words are cut into phrases that make the items of
the grammar and choose its start. -/
theorem read_eq_ok_iff {text : String} {g : Grammar} :
    Grammar.read text = .ok g ↔ ∃ phrases,
      spoken text.toList = some (phrases.flatMap Phrase.words) ∧
      MakesItems (withoutStarts phrases) g.items ∧ g.start = lastStart phrases := by
  unfold Grammar.read spoken
  rw [String.ofList_toList]
  cases words text with
  | error e => simp
  | ok result =>
    obtain ⟨ws, stop⟩ := result
    simp only [Option.some.injEq]
    constructor
    · exact exists_phrases_of_readWords
    · rintro ⟨phrases, hwords, hitems, hstart⟩
      exact readWords_of_phrases hwords hitems hstart stop

/-! ### The round trip -/

/-- The signs of a grammar that was read from a text are proper. -/
theorem proper_of_read {text : String} {g : Grammar} (h : Grammar.read text = .ok g) :
    ∀ s ∈ g.items.flatMap signsOfItem, s.Proper := by
  obtain ⟨phrases, hspoken, hitems, -⟩ := read_eq_ok_iff.1 h
  intro s hs
  have hsigns : some s ∈ (withoutStarts phrases).map Phrase.sign? := by
    rw [hitems.map_sign?]
    exact List.mem_map_of_mem hs
  obtain ⟨phrase, hphrase, hsign⟩ := List.mem_map.1 hsigns
  refine Sign.proper_of_sign? hsign fun w hw => spelled_of_spoken hspoken w ?_
  exact List.mem_flatMap.2 ⟨phrase, (List.mem_filter.1 hphrase).1, hw⟩

theorem legible_start_of_read {text : String} {g : Grammar} (h : Grammar.read text = .ok g)
    {name : String} (hname : g.start = some name) : (Phrase.start name).Legible := by
  obtain ⟨phrases, hspoken, -, hstart⟩ := read_eq_ok_iff.1 h
  refine legible_start (spelled_of_spoken hspoken (.name name) ?_)
  exact List.mem_flatMap.2
    ⟨.start name, start_mem_of_lastStart (hstart.symm.trans hname), by simp [Phrase.words]⟩

/-- A grammar whose signs are all written faithfully is read back. -/
theorem read_render_of_faithful {text : String} {g : Grammar} (h : Grammar.read text = .ok g)
    (hfaithful : ∀ s ∈ g.items.flatMap signsOfItem, s.Faithful) :
    Grammar.read g.render = .ok g := by
  have hlegible : ∀ phrase ∈ writtenPhrases g, phrase.Legible := by
    intro phrase hphrase
    rcases List.mem_append.1 hphrase with hphrase | hphrase
    · obtain ⟨s, hs, rfl⟩ := List.mem_map.1 hphrase
      exact (hfaithful s hs).legible
    · obtain ⟨name, hname, rfl⟩ : ∃ name, g.start = some name ∧ Phrase.start name = phrase := by
        simpa using hphrase
      exact legible_start_of_read h hname
  have hspoken := (spaced_render g).spoken_eq hlegible
  obtain ⟨phrases, -, hitems, -⟩ := read_eq_ok_iff.1 h
  refine read_eq_ok_iff.2 ⟨writtenPhrases g, hspoken, ?_, (lastStart_writtenPhrases g).symm⟩
  rw [withoutStarts_writtenPhrases]
  exact hitems.written fun s hs => (hfaithful s hs).sign?_phrase

/-- The quotation of a pattern with an oddly escaped double quote is read as a pattern with fewer
double quotes. -/
theorem exists_spoken_pattern {p : Pattern} (hpaired : Paired p.source.toList)
    (hodd : OddlyEscaped p.source.toList) (cs : List Char) :
    ∃ raw rest, spoken ((Sign.pattern p).phrase.text ++ cs) =
        (spoken rest).map (.delimiter .braceOpen :: .literal '"' raw :: ·) ∧
      p.source ≠ patternText '"' raw := by
  obtain ⟨raw, rest, heq, hraw, hcount⟩ :=
    hpaired.exists_quotable hodd ('"' :: Delimiter.braceClose.char :: cs)
  refine ⟨String.ofList raw, rest, ?_, ?_⟩
  · have htext : (Sign.pattern p).phrase.text ++ cs =
        Delimiter.braceOpen.char :: ('"' :: raw ++ '"' :: rest) := by
      rw [List.cons_append, ← heq]
      simp [Sign.phrase, Phrase.text, Word.render]
    rw [htext, spoken_delimiter, spoken_quotation rfl hraw, Option.map_map]
    rfl
  · intro hsource
    rw [hsource, patternText, String.toList_ofList, String.toList_ofList,
      count_unescape _ (by decide)] at hcount
    exact Nat.lt_irrefl _ hcount

/-- Phrases that make the items of a grammar and begin like those in which it is written have the
next sign of the grammar as well. -/
theorem sign?_of_makesItems {phrases : List Phrase} {items : List Item}
    (h : MakesItems (withoutStarts phrases) items) {before after : List Sign} {s : Sign}
    (hsigns : items.flatMap signsOfItem = before ++ s :: after)
    (hbefore : ∀ s ∈ before, s.Faithful) {w : Word} {ws : List Word}
    (hwords : phrases.flatMap Phrase.words =
      (before.map Sign.phrase).flatMap Phrase.words ++ .delimiter .braceOpen :: w :: ws) :
    (Phrase.braces w).sign? = some s := by
  have hreadable := readable_of_withoutStarts h.readable
  have hwritten : ∀ phrase ∈ before.map Sign.phrase, phrase.clause?.isSome := by
    intro phrase hphrase
    obtain ⟨s, hs, rfl⟩ := List.mem_map.1 hphrase
    exact isSome_clause?_of_sign? (hbefore s hs).sign?_phrase
  obtain ⟨rest, rfl, hrest⟩ := exists_append_of_flatMap_words hwritten hreadable hwords
  cases rest with
  | nil => cases hrest
  | cons phrase others =>
    obtain rfl := eq_braces_of_words (hreadable phrase (by simp)) hrest
    have hmap := h.map_sign?
    rw [hsigns, withoutStarts_append, withoutStarts_map_phrase, List.map_append, List.map_append]
      at hmap
    exact (List.cons.inj (List.append_inj hmap (by simp)).2).1

/-- A grammar is not read back if one of its patterns has an oddly escaped double quote. -/
theorem read_render_ne_of_oddlyEscaped {g : Grammar}
    (hproper : ∀ s ∈ g.items.flatMap signsOfItem, s.Proper) {p : Pattern} (hp : p ∈ g.patterns)
    (hodd : OddlyEscaped p.source.toList) : Grammar.read g.render ≠ .ok g := by
  obtain ⟨before, q, after, hsigns, hq, hfirst⟩ :=
    exists_first_oddlyEscaped ((pattern_mem_signs_iff g p).2 hp) hodd
  have hfaithful : ∀ s ∈ before, s.Faithful := fun s hs =>
    (hproper s (by simp [hsigns, hs])).faithful (hfirst s hs)
  have hpaired : Paired q.source.toList := hproper (.pattern q) (by simp [hsigns])
  have hlegible : ∀ phrase ∈ before.map Sign.phrase, phrase.Legible := by
    intro phrase hphrase
    obtain ⟨s, hs, rfl⟩ := List.mem_map.1 hphrase
    exact (hfaithful s hs).legible
  have hspaced := spaced_render g
  rw [writtenPhrases, hsigns, List.map_append, List.append_assoc] at hspaced
  obtain ⟨rest, hrest, hread⟩ := hspaced.exists_spoken hlegible
  obtain ⟨tail, hcolon, htail⟩ := hrest.exists_text
  obtain ⟨raw, others, hspoken, hne⟩ := exists_spoken_pattern hpaired hq tail
  intro hsame
  obtain ⟨phrases, hwords, hitems, -⟩ := read_eq_ok_iff.1 hsame
  rw [(hread (hcolon.trans rfl)).2, htail, hspoken, Option.map_map, Option.map_eq_some_iff]
    at hwords
  obtain ⟨ws, -, hwords⟩ := hwords
  have hsign := sign?_of_makesItems hitems hsigns hfaithful hwords.symm
  rw [Phrase.sign?, Option.map_eq_some_iff] at hsign
  obtain ⟨_, hsource, heq⟩ := hsign
  cases heq
  exact hne (Pattern.source_of_ofSource (toOption_eq_some_iff.1 hsource))

end GrammarText

variable [BracketSet]

/-- A grammar that was read from a text is written as a text that is read as the same grammar,
exactly when none of its patterns has a double quote directly behind an odd number of
backslashes. -/
theorem Grammar.read_render_iff {text : String} {g : Grammar} (h : Grammar.read text = .ok g) :
    Grammar.read g.render = .ok g ↔
      ∀ p ∈ g.patterns, ¬GrammarText.OddlyEscaped p.source.toList := by
  have hproper := GrammarText.proper_of_read h
  constructor
  · intro hsame p hp hodd
    exact GrammarText.read_render_ne_of_oddlyEscaped hproper hp hodd hsame
  · intro hplain
    refine GrammarText.read_render_of_faithful h fun s hs => (hproper s hs).faithful ?_
    rintro p rfl
    exact hplain p ((GrammarText.pattern_mem_signs_iff g p).1 hs)

/-- The grammar of one token with a pattern. -/
def Grammar.ofPattern (p : Pattern) : Grammar where
  items := [⟨"Q", .token, [[.pattern p]]⟩]
  start := none
  nodup_names := by simp
  wellFormed := by simpa using ⟨by simp [Item.isImported], by simp⟩
  start_mem := nofun

theorem Grammar.read_ofPattern (raw : String) {p : Pattern}
    (hraw : GrammarText.Quotable '\'' raw.toList)
    (hp : GrammarText.patternText '\'' raw = p.source) :
    Grammar.read ("TOKEN Q: \x7b'" ++ raw ++ "'\x7d\n") = .ok (.ofPattern p) := by
  have hspoken : GrammarText.spoken ("TOKEN Q: \x7b'" ++ raw ++ "'\x7d\n").toList =
      some ([.token "Q", .braces (.literal '\'' raw)].flatMap GrammarText.Phrase.words) := by
    have hspaced := GrammarText.Spaced.phrase (.token "Q") (c := ' ') (by decide)
      (.blank (by decide) (.phrase (.braces (.literal '\'' raw)) (c := '\n') (by decide)
        (.blank (by decide) .nil)))
    refine GrammarText.Spaced.spoken_eq ?_ ?_
    · simpa [GrammarText.Phrase.text, GrammarText.Word.render, GrammarText.Keyword.spelling,
        GrammarText.Delimiter.char] using hspaced
    · have htoken : (GrammarText.Phrase.token "Q").Legible :=
        GrammarText.legible_token ⟨rfl, by decide⟩
      have hbraces : (GrammarText.Phrase.braces (.literal '\'' raw)).Legible :=
        GrammarText.legible_braces fun cs => GrammarText.spoken_literal ⟨rfl, hraw⟩ _
      simpa using ⟨htoken, hbraces⟩
  have hsource : Pattern.ofSource (GrammarText.patternText '\'' raw) = .ok p := by
    rw [hp, Pattern.ofSource_source]
  refine GrammarText.read_eq_ok_iff.2 ⟨_, hspoken, ?_, rfl⟩
  exact (GrammarText.MakesItem.token (.last (.pattern hsource))).single

end Library

theorem exists_of_isOk {ε α : Type} {x : Except ε α} (h : x.isOk = true) : ∃ a, x = .ok a := by
  cases x with
  | error e => cases h
  | ok a => exact ⟨a, rfl⟩

/-- An escaped double quote between single quotes is a pattern that is not read back, and a plain
one is a pattern that is. -/
theorem Grammar.read_render_iff_quote :
    (∃ g, Grammar.read "TOKEN Q: \x7b'\\\"'\x7d\n" = .ok g ∧ Grammar.read g.render ≠ .ok g) ∧
      ∃ g, Grammar.read "TOKEN Q: \x7b'\"'\x7d\n" = .ok g ∧ Grammar.read g.render = .ok g := by
  constructor
  · obtain ⟨regex, hregex⟩ := exists_of_isOk
      (show (RegexLibrary.compile (Pattern.anchored "\\\"")).isOk = true by cbv)
    have hread := Grammar.read_ofPattern "\\\"" (p := ⟨_, regex, hregex⟩) (.escape _ .nil) rfl
    have hodd : GrammarText.OddlyEscaped "\\\"".toList := ⟨[], 0, [], by decide, by simp⟩
    exact ⟨_, hread, fun hsame =>
      (Grammar.read_render_iff hread).1 hsame _ (List.mem_singleton_self _) hodd⟩
  · obtain ⟨regex, hregex⟩ := exists_of_isOk
      (show (RegexLibrary.compile (Pattern.anchored "\"")).isOk = true by cbv)
    have hread := Grammar.read_ofPattern "\"" (p := ⟨_, regex, hregex⟩)
      (.plain (by decide) (by decide) .nil) rfl
    refine ⟨_, hread, (Grammar.read_render_iff hread).2 fun p hp => ?_⟩
    obtain rfl := List.mem_singleton.1 hp
    rw [show "\"".toList = ['"'] by decide, GrammarText.oddlyEscaped_cons_iff (by decide)]
    exact GrammarText.not_oddlyEscaped_nil

end BranchLR
