import BranchLR.GrammarText.Reader
import BranchLR.Proofs.GrammarText.Additions
import BranchLR.Proofs.GrammarText.Phrases

/-!
# What a reader has read

A reader stands for the phrases it has taken in: complete items, and then the beginning of an item,
which is its heading, alternatives that end with a bar, the rules of the alternative being filled,
and brackets that wait for their ends. Every clause that is accepted carries this on by its phrase.
So the phrases of a text that is read to its end make the items of its grammar.
-/

namespace BranchLR.GrammarText

theorem withoutStarts_append (ps qs : List Phrase) :
    withoutStarts (ps ++ qs) = withoutStarts ps ++ withoutStarts qs := List.filter_append ..

theorem lastStart_append (ps qs : List Phrase) :
    lastStart (ps ++ qs) = (lastStart qs).or (lastStart ps) := by
  rw [lastStart, lastStart, lastStart, List.filterMap_append, List.getLast?_append]

theorem withoutStarts_concat {phrase : Phrase} (h : phrase.start? = none) (ps : List Phrase) :
    withoutStarts (ps ++ [phrase]) = withoutStarts ps ++ [phrase] := by
  simp [withoutStarts, h]

theorem lastStart_concat {phrase : Phrase} (h : phrase.start? = none) (ps : List Phrase) :
    lastStart (ps ++ [phrase]) = lastStart ps := by
  simp [lastStart, h]

theorem start_mem_of_lastStart {phrases : List Phrase} {name : String}
    (h : lastStart phrases = some name) : Phrase.start name ∈ phrases := by
  obtain ⟨phrase, hphrase, hstart⟩ := List.mem_filterMap.1 (List.mem_of_getLast? h)
  cases phrase <;> cases hstart
  exact hphrase

variable [RegexLibrary]

/-- The phrases make alternatives that each end with a bar. -/
inductive MakesFinished (kind : ItemKind) : List Phrase → List (List Rule) → Prop
  | nil : MakesFinished kind [] []
  | append {ps qs : List Phrase} {alternatives : List (List Rule)} {rules : List Rule}
      (h : MakesFinished kind ps alternatives) (hrules : MakesAlternative kind qs rules) :
      MakesFinished kind (ps ++ qs ++ [.word (.delimiter .bar)]) (alternatives ++ [rules])

/-- The phrases open brackets, the innermost of them last, and make the rules inside them. -/
inductive Opens : List Phrase → List OpenBracket → Prop
  | nil : Opens [] []
  | cons {ps qs : List Phrase} {outer : List OpenBracket} {b : OpenBracket}
      (houter : Opens ps outer) (hrules : MakesRules qs b.rules) :
      Opens (ps ++ .word (.delimiter b.kind.opening) :: qs) (b :: outer)

/-- The phrases make what has been read of an alternative. -/
def Fills (kind : ItemKind) (ps : List Phrase) (rules : List Rule) : Prop :=
  ps = [] ∧ rules = [] ∨ MakesAlternative kind ps rules

/-- The phrases are the beginning of an item, and the draft is what has been read of it. -/
def Draft.Spells (d : Draft) (ps : List Phrase) : Prop :=
  ∃ finished filling opened,
    ps = .heading d.item.name d.item.kind :: (finished ++ filling ++ opened) ∧
    MakesFinished d.item.kind finished d.item.alternatives ∧
    Fills d.item.kind filling d.alternative ∧ Opens opened d.brackets

theorem MakesFinished.followedBy {kind : ItemKind} {ps qs : List Phrase}
    {alternatives others : List (List Rule)} (h : MakesFinished kind ps alternatives)
    (hothers : MakesAlternatives kind qs others) :
    MakesAlternatives kind (ps ++ qs) (alternatives ++ others) := by
  induction h generalizing qs others with
  | nil => exact hothers
  | append _ hrules ih =>
    simpa using ih (.cons hrules hothers)

/-- An imported token has no alternatives. -/
theorem MakesFinished.eq_nil {ps : List Phrase} {alternatives : List (List Rule)}
    (h : MakesFinished .imported ps alternatives) : ps = [] ∧ alternatives = [] := by
  cases h with
  | nil => exact ⟨rfl, rfl⟩
  | append _ hrules => cases hrules

theorem Offers.makesRule {ps : List Phrase} {r : Rule} (h : Offers ps r)
    (hr : ∀ p, r ≠ .pattern p) : MakesRule ps r := by
  rcases h with h | h
  · exact h
  · cases h with
    | literal => exact .literal
    | pattern => exact absurd rfl (hr _)

/-- What a token takes is offered as one of its alternatives. -/
theorem Offers.makesAlternative {ps : List Phrase} {r : Rule} (h : Offers ps r)
    (hr : (∃ text, r = .literal text) ∨ ∃ p, r = .pattern p) : MakesAlternative .token ps [r] := by
  rcases h with h | h
  · cases h with
    | literal => exact .literal
    | @bracket kind => cases kind <;> simp [BracketKind.rule] at hr
    | _ => simp at hr
  · exact h

/-- An alternative that has been begun takes one more rule. -/
theorem Fills.append {ps qs : List Phrase} {rules : List Rule} {r : Rule} (h : Fills .rule ps rules)
    (hr : MakesRule qs r) : Fills .rule (ps ++ qs) (rules ++ [r]) := by
  right
  rcases h with ⟨rfl, rfl⟩ | h
  · exact .rules hr.single nofun
  · cases h with
    | rules hrules _ => exact .rules (hrules.append hr.single) (by simp)

theorem Fills.eq_nil {kind : ItemKind} {ps : List Phrase} (h : Fills kind ps []) : ps = [] := by
  rcases h with ⟨hps, -⟩ | h
  · exact hps
  · exact absurd rfl h.ne_nil

theorem Fills.eq_nil_of_imported {ps : List Phrase} {rules : List Rule}
    (h : Fills .imported ps rules) : ps = [] := by
  rcases h with ⟨hps, -⟩ | h
  · exact hps
  · cases h

theorem Fills.makesAlternative {kind : ItemKind} {ps : List Phrase} {rules : List Rule}
    (h : Fills kind ps rules) (hne : rules ≠ []) : MakesAlternative kind ps rules :=
  h.resolve_left fun hempty => hne hempty.2

theorem Opens.eq_nil {ps : List Phrase} (h : Opens ps []) : ps = [] := by
  cases h
  rfl

section

variable {d d' : Draft} {p : Position} {ps qs : List Phrase}

theorem Draft.spells_begin (p : Position) (name : String) (kind : ItemKind) :
    (Draft.begin p name kind).Spells [.heading name kind] :=
  ⟨[], [], [], rfl, .nil, .inl ⟨rfl, rfl⟩, .nil⟩

/-- A rule that is accepted carries the draft on by the phrases that make it. -/
theorem Draft.Spells.addRule (h : d.Spells ps) (himported : d.item.isImported = false) {r : Rule}
    (hr : Offers qs r) (hadd : d.addRule p r = .ok d') : d'.Spells (ps ++ qs) := by
  obtain ⟨finished, filling, opened, rfl, halternatives, halternative, hbrackets⟩ := h
  unfold Draft.addRule at hadd
  split at hadd
  next b outer heq =>
    split at hadd
    · cases hadd
    next hpattern =>
    cases hadd
    rw [heq] at hbrackets
    cases hbrackets with
    | cons houter hrules =>
      have hrules' := hrules.append (hr.makesRule hpattern).single
      refine ⟨finished, filling, _, ?_, halternatives, halternative, .cons houter hrules'⟩
      simp
  next heq =>
    obtain rfl := (heq ▸ hbrackets).eq_nil
    dsimp only at hadd
    split at hadd
    next htoken =>
      have hkind : d.item.kind = .token := by
        cases hkind : d.item.kind <;> simp_all [Item.isImported, Item.isToken]
      have hshape : d.alternative = [] ∧ ((∃ text, r = .literal text) ∨ ∃ q, r = .pattern q) ∧
          { d with alternative := d.alternative ++ [r] } = d' := by
        split at hadd
        next text hempty => exact ⟨hempty, .inl ⟨text, rfl⟩, Except.ok.inj hadd⟩
        next q hempty => exact ⟨hempty, .inr ⟨q, rfl⟩, Except.ok.inj hadd⟩
        next => cases hadd
      obtain ⟨hempty, hr', rfl⟩ := hshape
      rw [hempty] at halternative
      obtain rfl := halternative.eq_nil
      have halternative' : MakesAlternative .token qs (d.alternative ++ [r]) := by
        rw [hempty]
        exact hr.makesAlternative hr'
      refine ⟨finished, qs, [], ?_, halternatives, .inr (hkind ▸ halternative'), hbrackets⟩
      simp
    next htoken =>
      have hkind : d.item.kind = .rule := by simpa [Item.isToken] using htoken
      split at hadd
      · cases hadd
      next hpattern =>
      cases hadd
      rw [hkind] at halternative
      have halternative' := halternative.append (hr.makesRule hpattern)
      refine ⟨finished, filling ++ qs, [], ?_, halternatives, hkind ▸ halternative', hbrackets⟩
      simp

theorem Draft.Spells.closeBracket (h : d.Spells ps) (himported : d.item.isImported = false)
    {word : Word} {kind : BracketKind} (hclose : d.closeBracket p word kind = .ok d') :
    d'.Spells (ps ++ [.word (.delimiter kind.closing)]) := by
  obtain ⟨finished, filling, opened, rfl, halternatives, halternative, hbrackets⟩ := h
  unfold Draft.closeBracket at hclose
  split at hclose
  · cases hclose
  next b outer heq =>
  split at hclose
  · cases hclose
  next hkind =>
  split at hclose
  · cases hclose
  next hne =>
  obtain rfl : b.kind = kind := Decidable.not_not.1 hkind
  rw [heq] at hbrackets
  cases hbrackets with
  | @cons before inside _ _ houter hrules =>
    have hbefore : Draft.Spells { d with brackets := outer }
        (.heading d.item.name d.item.kind :: (finished ++ filling ++ before)) :=
      ⟨finished, filling, before, rfl, halternatives, halternative, houter⟩
    have hbracket : Offers (.word (.delimiter b.kind.opening) :: inside ++
        [.word (.delimiter b.kind.closing)]) (b.kind.rule b.rules) :=
      .inl (.bracket hrules (by simpa using hne))
    simpa using hbefore.addRule himported hbracket hclose

/-- Ending an alternative adds it to the item. -/
theorem Draft.finishAlternative_eq_ok_iff (himported : d.item.isImported = false) :
    d.finishAlternative p = .ok d' ↔ d.alternative ≠ [] ∧
      { d with
        item := { d.item with alternatives := d.item.alternatives ++ [d.alternative] }
        alternative := [] } = d' := by
  unfold Draft.finishAlternative
  rw [himported]
  by_cases hempty : d.alternative = []
  · simp [hempty]
  · simp [hempty]

/-- A part of the body that is accepted carries the draft on by its phrase. -/
theorem Draft.Spells.addPiece (h : d.Spells ps) (himported : d.item.isImported = false)
    {phrase : Phrase} {word : Word} {piece : Piece} (hsaid : phrase.Says (.body word (.ok piece)))
    (hadd : d.addPiece p word piece = .ok d') : d'.Spells (ps ++ [phrase]) := by
  cases hsaid with
  | rule hr => exact h.addRule himported hr hadd
  | bar =>
    obtain ⟨finished, filling, opened, rfl, halternatives, halternative, hbrackets⟩ := h
    simp only [Draft.addPiece] at hadd
    split at hadd
    next hclosed =>
      obtain ⟨hne, rfl⟩ := (Draft.finishAlternative_eq_ok_iff himported).1 hadd
      obtain rfl := (List.isEmpty_iff.1 hclosed ▸ hbrackets).eq_nil
      have halternatives' := halternatives.append (halternative.makesAlternative hne)
      refine ⟨_, [], [], ?_, halternatives', .inl ⟨rfl, rfl⟩, hbrackets⟩
      simp
    next => cases hadd
  | opening _ kind =>
    obtain ⟨finished, filling, opened, rfl, halternatives, halternative, hbrackets⟩ := h
    cases hadd
    exact ⟨finished, filling, _, by simp, halternatives, halternative, .cons hbrackets .nil⟩
  | closing _ kind => exact h.closeBracket himported hadd

/-- A draft that is accepted as a whole has been spelled as its item. -/
theorem Draft.Spells.finish (h : d.Spells ps) {g g' : Grammar} (hfinish : d.finish p g = .ok g') :
    ∃ item, MakesItem ps item ∧ g.insert item = .ok g' := by
  obtain ⟨finished, filling, opened, rfl, halternatives, halternative, hbrackets⟩ := h
  unfold Draft.finish at hfinish
  split at hfinish
  · cases hfinish
  next heq =>
  obtain rfl := (heq ▸ hbrackets).eq_nil
  obtain ⟨d₁, hlast, hrest⟩ := exists_of_bind_eq_ok hfinish
  split at hrest
  · next g₁ hinsert =>
    cases hrest
    refine ⟨d₁.item, ?_, hinsert⟩
    cases himported : d.item.isImported with
    | true =>
      obtain ⟨_, ⟨name, kind, _⟩, _, _⟩ := d
      obtain rfl : kind = .imported := by simpa [Item.isImported] using himported
      obtain ⟨rfl, rfl⟩ := halternatives.eq_nil
      obtain rfl := halternative.eq_nil_of_imported
      cases hlast
      exact .imported
    | false =>
      obtain ⟨hne, rfl⟩ := (Draft.finishAlternative_eq_ok_iff himported).1 hlast
      have hmade := halternatives.followedBy (.last (halternative.makesAlternative hne))
      simpa using hmade.item d.item.name
  · cases hrest

end

/-- The phrases are those of complete items and of the beginning of an item, as far as they do not
choose the start item. -/
structure Reader.Spells (r : Reader) (phrases : List Phrase) : Prop where
  parts : ∃ complete begun, withoutStarts phrases = complete ++ begun ∧
    MakesItems complete r.grammar.items ∧ r.draft.elim (begun = []) (·.Spells begun)
  grammar_start : r.grammar.start = none
  start : r.start.map Prod.snd = lastStart phrases

section

variable {r r' : Reader} {p : Position} {phrases : List Phrase}

theorem Reader.spells_empty : Reader.empty.Spells [] :=
  ⟨⟨[], [], rfl, .nil, rfl⟩, rfl, rfl⟩

theorem Reader.Spells.complete (h : r.Spells phrases) {g : Grammar}
    (hcomplete : r.complete p = .ok g) :
    MakesItems (withoutStarts phrases) g.items ∧ g.start = none := by
  obtain ⟨complete, begun, hparts, hitems, hdraft⟩ := h.parts
  rw [hparts]
  unfold Reader.complete at hcomplete
  split at hcomplete
  next hnone =>
    cases hcomplete
    rw [hnone] at hdraft
    obtain rfl : begun = [] := hdraft
    exact ⟨by simpa using hitems, h.grammar_start⟩
  next d hsome =>
    rw [hsome] at hdraft
    obtain ⟨item, hitem, hinsert⟩ := Draft.Spells.finish hdraft hcomplete
    obtain ⟨-, -, hadded, hstart⟩ := Grammar.insert_eq_ok_iff.1 hinsert
    exact ⟨hadded ▸ hitems.append hitem.single, hstart.trans h.grammar_start⟩

/-- A clause that is accepted carries the reader on by its phrase. -/
theorem Reader.Spells.step (h : r.Spells phrases) {phrase : Phrase} {c : Clause}
    (hphrase : phrase.clause? = some c) (hstep : r.step p c = .ok r') :
    r'.Spells (phrases ++ [phrase]) := by
  have hsaid := says_of_clause? hphrase
  cases c with
  | item name kind =>
    cases hsaid
    obtain ⟨g, hcomplete, hrest⟩ := exists_of_bind_eq_ok hstep
    cases hrest
    obtain ⟨hitems, hnone⟩ := h.complete hcomplete
    have hstart : (Phrase.heading name kind).start? = none := by cases kind <;> rfl
    refine ⟨⟨withoutStarts phrases, [.heading name kind], withoutStarts_concat hstart _, hitems,
      ?_⟩, hnone, h.start.trans (lastStart_concat hstart _).symm⟩
    exact Draft.spells_begin p name kind
  | start name =>
    cases hsaid
    cases hstep
    obtain ⟨complete, begun, hparts, hrest⟩ := h.parts
    refine ⟨⟨complete, begun, ?_, hrest⟩, h.grammar_start, ?_⟩
    · rw [withoutStarts_append, hparts]
      exact List.append_nil _
    · rw [lastStart_append]
      rfl
  | body word piece =>
    have hstart : phrase.start? = none := by
      cases phrase with
      | start name => cases hphrase
      | _ => rfl
    obtain ⟨complete, begun, hparts, hitems, hdraft⟩ := h.parts
    simp only [Reader.step] at hstep
    split at hstep
    · cases hstep
    next d hsome =>
    split at hstep
    · cases hstep
    next himported =>
    obtain ⟨piece, rfl, hpiece⟩ := exists_of_bind_eq_ok hstep
    obtain ⟨d₁, hadd, hrest⟩ := exists_of_bind_eq_ok hpiece
    cases hrest
    rw [hsome] at hdraft
    have hdraft₁ := Draft.Spells.addPiece hdraft (by simpa using himported) hsaid hadd
    refine ⟨⟨complete, begun ++ [phrase], ?_, hitems, hdraft₁⟩, h.grammar_start,
      h.start.trans (lastStart_concat hstart _).symm⟩
    rw [withoutStarts_concat hstart, hparts, List.append_assoc]
  | faulty e => cases hstep

/-- Clauses that are accepted carry the reader on by their phrases. -/
theorem Reader.Spells.readAll (h : r.Spells phrases) {more : List Phrase}
    {cs : List (Position × Clause)} (hmore : ReadAs more cs) (hread : r.readAll cs = .ok r') :
    r'.Spells (phrases ++ more) := by
  induction more generalizing r phrases cs with
  | nil =>
    obtain rfl := readAs_nil_iff.1 hmore
    cases hread
    rwa [List.append_nil]
  | cons phrase more ih =>
    obtain ⟨p, c, rest, rfl, hphrase, hmore⟩ := readAs_cons_iff.1 hmore
    obtain ⟨r₁, hstep, hrest⟩ := exists_of_bind_eq_ok hread
    simpa using ih (h.step hphrase hstep) hmore hrest

/-- Clauses that are accepted carry no error. -/
theorem Reader.isReadable_of_step {c : Clause} (h : r.step p c = .ok r') : c.IsReadable := by
  cases c with
  | item name kind => trivial
  | start name => trivial
  | body word piece =>
    cases piece with
    | ok piece => trivial
    | error e =>
      simp only [Reader.step] at h
      split at h
      · cases h
      · split at h <;> cases h
  | faulty e => cases h

theorem Reader.isReadable_of_readAll {cs : List (Position × Clause)} (h : r.readAll cs = .ok r') :
    ∀ c ∈ cs, c.2.IsReadable := by
  induction cs generalizing r with
  | nil => nofun
  | cons c cs ih =>
    obtain ⟨r₁, hstep, hrest⟩ := exists_of_bind_eq_ok h
    exact List.forall_mem_cons.2 ⟨Reader.isReadable_of_step hstep, ih hrest⟩

theorem Reader.Spells.finish (h : r.Spells phrases) {g : Grammar} (hfinish : r.finish p = .ok g) :
    MakesItems (withoutStarts phrases) g.items ∧ g.start = lastStart phrases := by
  unfold Reader.finish at hfinish
  obtain ⟨g₁, hcomplete, hrest⟩ := exists_of_bind_eq_ok hfinish
  obtain ⟨hitems, hnone⟩ := h.complete hcomplete
  rw [← h.start]
  split at hrest
  next hstart =>
    cases hrest
    exact ⟨hitems, by rw [hnone, hstart]; rfl⟩
  next q name hstart =>
    split at hrest
    next g₂ hchosen =>
      cases hrest
      obtain ⟨-, hsame, hname⟩ := Grammar.setStart_eq_ok_iff.1 hchosen
      exact ⟨hsame ▸ hitems, by rw [hname, hstart]; rfl⟩
    next => cases hrest

end

/-- Words that are read as a grammar are cut into phrases that make its items and choose its
start. -/
theorem exists_phrases_of_readWords {ws : List (Position × Word)} {stop : Position} {g : Grammar}
    (h : readWords ws stop = .ok g) :
    ∃ phrases, ws.map Prod.snd = phrases.flatMap Phrase.words ∧
      MakesItems (withoutStarts phrases) g.items ∧ g.start = lastStart phrases := by
  obtain ⟨r, hread, hfinish⟩ := exists_of_bind_eq_ok h
  obtain ⟨phrases, hwords, hphrases⟩ :=
    exists_readAs_clauses ws (Reader.isReadable_of_readAll hread)
  exact ⟨phrases, hwords, (Reader.spells_empty.readAll hphrases hread).finish hfinish⟩

end BranchLR.GrammarText
