import BranchLR.Proofs.GrammarText.Drafts

/-!
# The language of grammar texts

The reader accepts every text whose phrases make items with distinct names and choose a start among
them. A rule that may stand where it does is added to what is open, so by induction on what the
phrases make, the reader takes in rules, alternatives and items one after the other. The choice of a
start item changes nothing else, so it may be put anywhere. Together with what a successful reader
has read, this says which texts are accepted and which grammars they stand for.
-/

namespace BranchLR.GrammarText

variable [RegexLibrary]

/-- The draft with more rules in its innermost open bracket, or in its alternative if none is
open. -/
def Draft.extend (d : Draft) (rules : List Rule) : Draft :=
  match d.brackets with
  | b :: outer => { d with brackets := { b with rules := b.rules ++ rules } :: outer }
  | [] => { d with alternative := d.alternative ++ rules }

section

variable {d : Draft} {r : Reader} {ps : List Phrase} {cs : List (Position × Clause)}

@[simp]
theorem Draft.item_extend (d : Draft) (rules : List Rule) : (d.extend rules).item = d.item := by
  unfold Draft.extend
  split <;> rfl

theorem Draft.extend_nil (d : Draft) : d.extend [] = d := by
  obtain ⟨_, _, _, _ | ⟨b, outer⟩⟩ := d
  · simp [Draft.extend]
  · simp [Draft.extend]

theorem Draft.extend_append (d : Draft) (as bs : List Rule) :
    d.extend (as ++ bs) = (d.extend as).extend bs := by
  obtain ⟨_, _, _, _ | ⟨b, outer⟩⟩ := d
  · simp [Draft.extend]
  · simp [Draft.extend]

/-- Outside of tokens every rule but a pattern is accepted. -/
theorem Draft.addRule_eq (hkind : d.item.kind = .rule) (p : Position) {rule : Rule}
    (hrule : ∀ q, rule ≠ .pattern q) : d.addRule p rule = .ok (d.extend [rule]) := by
  have htoken : d.item.isToken = false := by simp [Item.isToken, hkind]
  obtain ⟨_, _, _, _ | ⟨b, outer⟩⟩ := d
  · cases rule with
    | pattern q => exact absurd rfl (hrule q)
    | _ => simp_all [Draft.addRule, Draft.extend]
  · cases rule with
    | pattern q => exact absurd rfl (hrule q)
    | _ => rfl

/-- A bracket with rules is closed as a rule. -/
theorem Draft.closeBracket_eq (hkind : d.item.kind = .rule) (p q : Position) (word : Word)
    (kind : BracketKind) {rules : List Rule} (hne : rules ≠ []) :
    Draft.closeBracket { d with brackets := ⟨q, kind, rules⟩ :: d.brackets } p word kind =
      .ok (d.extend [kind.rule rules]) := by
  have hrule : ∀ q, kind.rule rules ≠ .pattern q := by cases kind <;> nofun
  simpa [Draft.closeBracket, hne] using Draft.addRule_eq hkind p hrule

theorem Reader.readAll_append (r : Reader) (as bs : List (Position × Clause)) :
    r.readAll (as ++ bs) = r.readAll as >>= fun r => r.readAll bs := by
  induction as generalizing r with
  | nil => rfl
  | cons a as ih =>
    simp only [List.cons_append, Reader.readAll, ih, bind_assoc]

/-- Reading the clauses makes another draft of a draft. -/
def Draft.Becomes (d : Draft) (cs : List (Position × Clause)) (d' : Draft) : Prop :=
  ∀ r : Reader, r.draft = some d → r.readAll cs = .ok { r with draft := some d' }

theorem Draft.becomes_nil (d : Draft) : d.Becomes [] d := by
  intro r hr
  rw [← hr]
  rfl

theorem Draft.Becomes.append {d d₁ d₂ : Draft} {as bs : List (Position × Clause)}
    (has : d.Becomes as d₁) (hbs : d₁.Becomes bs d₂) : d.Becomes (as ++ bs) d₂ := by
  intro r hr
  rw [Reader.readAll_append, has r hr]
  exact hbs { r with draft := some d₁ } rfl

theorem Draft.becomes_of_addPiece {d d' : Draft} {p : Position} {word : Word} {piece : Piece}
    (himported : d.item.isImported = false) (hadd : d.addPiece p word piece = .ok d') :
    d.Becomes [(p, .body word (.ok piece))] d' := by
  intro r hr
  have hstep : r.step p (.body word (.ok piece)) = .ok { r with draft := some d' } := by
    simp only [Reader.step, hr, himported, Bool.false_eq_true, if_false]
    change (d.addPiece p word piece >>= fun d => .ok { r with draft := some d }) = _
    rw [hadd]
    rfl
  rw [Reader.readAll, hstep]
  rfl

theorem readAs_singleton_iff {phrase : Phrase} :
    ReadAs [phrase] cs ↔ ∃ p c, cs = [(p, c)] ∧ phrase.clause? = some c := by
  simp only [readAs_cons_iff, readAs_nil_iff]
  constructor
  · rintro ⟨p, c, _, rfl, hc, rfl⟩
    exact ⟨p, c, rfl, hc⟩
  · rintro ⟨p, c, rfl, hc⟩
    exact ⟨p, c, [], rfl, hc, rfl⟩

/-- A single phrase adds the part of the body that it is read as. -/
theorem becomes_of_readAs {d' : Draft} {phrase : Phrase} {word : Word} {piece : Piece}
    (himported : d.item.isImported = false)
    (hphrase : phrase.clause? = some (.body word (.ok piece)))
    (hadd : ∀ p, d.addPiece p word piece = .ok d') (hcs : ReadAs [phrase] cs) :
    d.Becomes cs d' := by
  obtain ⟨p, c, rfl, hc⟩ := readAs_singleton_iff.1 hcs
  obtain rfl := Option.some.inj (hphrase.symm.trans hc)
  exact Draft.becomes_of_addPiece himported (hadd p)

theorem becomes_extend (hkind : d.item.kind = .rule) {phrase : Phrase} {word : Word} {rule : Rule}
    (hphrase : phrase.clause? = some (.body word (.ok (.rule rule))))
    (hrule : ∀ q, rule ≠ .pattern q) (hcs : ReadAs [phrase] cs) : d.Becomes cs (d.extend [rule]) :=
  becomes_of_readAs (by simp [Item.isImported, hkind]) hphrase
    (fun p => Draft.addRule_eq hkind p hrule) hcs

mutual

/-- Outside of tokens the phrases of a rule add it to the draft. -/
theorem MakesRule.becomes {d : Draft} (hkind : d.item.kind = .rule) {ps : List Phrase} {r : Rule} :
    MakesRule ps r → ∀ {cs}, ReadAs ps cs → d.Becomes cs (d.extend [r])
  | .name, cs, hcs => becomes_extend hkind rfl (by simp) hcs
  | .literal, cs, hcs => becomes_extend hkind rfl (by simp) hcs
  | .empty, cs, hcs => becomes_extend hkind rfl (by simp) hcs
  | .endOfInput, cs, hcs => becomes_extend hkind rfl (by simp) hcs
  | @MakesRule.bracket _ kind _ rules hrules hne, cs, hcs => by
    have himported : d.item.isImported = false := by simp [Item.isImported, hkind]
    rw [List.cons_append, readAs_cons_iff] at hcs
    obtain ⟨p, c, rest, rfl, hc, hrest⟩ := hcs
    obtain ⟨inside, after, rfl, hinside, hafter⟩ := readAs_append_iff.1 hrest
    have hopening : d.Becomes [(p, c)] { d with brackets := ⟨p, kind, []⟩ :: d.brackets } := by
      obtain rfl := Option.some.inj ((Phrase.clause?_opening kind).symm.trans hc)
      exact Draft.becomes_of_addPiece himported rfl
    have hinside := hrules.becomes (d := { d with brackets := ⟨p, kind, []⟩ :: d.brackets })
      hkind hinside
    have hclosing : Draft.Becomes { d with brackets := ⟨p, kind, rules⟩ :: d.brackets } after
        (d.extend [kind.rule rules]) :=
      becomes_of_readAs himported (Phrase.clause?_closing kind)
        (fun q => Draft.closeBracket_eq hkind q p _ kind hne) hafter
    exact hopening.append (hinside.append hclosing)

/-- Outside of tokens the phrases of rules in a row add these to the draft. -/
theorem MakesRules.becomes {d : Draft} (hkind : d.item.kind = .rule) {ps : List Phrase}
    {rules : List Rule} :
    MakesRules ps rules → ∀ {cs}, ReadAs ps cs → d.Becomes cs (d.extend rules)
  | .nil, cs, hcs => by
    obtain rfl := readAs_nil_iff.1 hcs
    rw [Draft.extend_nil]
    exact d.becomes_nil
  | .cons hfirst hrest, cs, hcs => by
    obtain ⟨as, bs, rfl, has, hbs⟩ := readAs_append_iff.1 hcs
    rw [← List.singleton_append, Draft.extend_append]
    exact (hfirst.becomes hkind has).append (hrest.becomes (by simpa using hkind) hbs)

end

/-- The phrases of an alternative fill an empty one. -/
theorem MakesAlternative.becomes {kind : ItemKind} {rules : List Rule}
    (h : MakesAlternative kind ps rules) (hkind : d.item.kind = kind) (hempty : d.alternative = [])
    (hclosed : d.brackets = []) (hcs : ReadAs ps cs) :
    d.Becomes cs { d with alternative := rules } := by
  cases h with
  | rules hrules _ => simpa [Draft.extend, hclosed, hempty] using hrules.becomes hkind hcs
  | literal =>
    refine becomes_of_readAs (by simp [Item.isImported, hkind]) rfl (fun p => ?_) hcs
    simp [Draft.addPiece, Draft.addRule, hclosed, hempty, Item.isToken, hkind]
  | @pattern mark raw q hq =>
    have hphrase : (Phrase.braces (.literal mark raw)).clause? =
        some (.body (.delimiter .braceOpen) (.ok (.rule (.pattern q)))) := by
      simp only [Phrase.clause?, braced, hq]
    refine becomes_of_readAs (by simp [Item.isImported, hkind]) hphrase (fun p => ?_) hcs
    simp [Draft.addPiece, Draft.addRule, hclosed, hempty, Item.isToken, hkind]

theorem MakesAlternative.isImported_eq {kind : ItemKind} {rules : List Rule}
    (h : MakesAlternative kind ps rules) {item : Item} (hkind : item.kind = kind) :
    item.isImported = false := by
  cases h <;> simp [Item.isImported, hkind]

/-- The draft with more alternatives behind those that are finished. -/
def Draft.addAlternatives (d : Draft) (alternatives : List (List Rule)) : Draft :=
  { d with item := { d.item with alternatives := d.item.alternatives ++ alternatives } }

/-- An alternative that has been filled can be ended. -/
theorem Draft.finishAlternative_eq (himported : d.item.isImported = false)
    (hempty : d.alternative = []) {rules : List Rule} (hne : rules ≠ []) (p : Position) :
    Draft.finishAlternative { d with alternative := rules } p =
      .ok (d.addAlternatives [rules]) := by
  simp [Draft.finishAlternative, Draft.addAlternatives, himported, hempty, hne]

/-- The phrases of alternatives leave a draft that only has to end the last of them. -/
theorem MakesAlternatives.becomes {kind : ItemKind} {alternatives : List (List Rule)}
    (h : MakesAlternatives kind ps alternatives) (hkind : d.item.kind = kind)
    (hempty : d.alternative = []) (hclosed : d.brackets = []) (hcs : ReadAs ps cs) :
    ∃ d', d.Becomes cs d' ∧ d'.brackets = [] ∧
      ∀ p, d'.finishAlternative p = .ok (d.addAlternatives alternatives) := by
  induction h generalizing d cs with
  | last halternative =>
    exact ⟨_, halternative.becomes hkind hempty hclosed hcs, hclosed,
      Draft.finishAlternative_eq (halternative.isImported_eq hkind) hempty halternative.ne_nil⟩
  | @cons _ _ rules others hfirst _ ih =>
    have himported := hfirst.isImported_eq hkind
    obtain ⟨as, bs, rfl, has, hbs⟩ := readAs_append_iff.1 hcs
    obtain ⟨p, c, rest, rfl, hc, hrest⟩ := readAs_cons_iff.1 hbs
    cases hc
    have hbar : Draft.Becomes { d with alternative := rules }
        [(p, .body (.delimiter .bar) (.ok .bar))] (d.addAlternatives [rules]) := by
      refine Draft.becomes_of_addPiece himported ?_
      simpa [Draft.addPiece, hclosed] using
        Draft.finishAlternative_eq himported hempty hfirst.ne_nil p
    obtain ⟨d', hd', hclosed', hfinish⟩ :=
      ih (d := d.addAlternatives [rules]) hkind hempty hclosed hrest
    refine ⟨d', (hfirst.becomes hkind hempty hclosed has).append (hbar.append hd'), hclosed', ?_⟩
    intro q
    rw [hfinish q]
    simp [Draft.addAlternatives]

/-- A draft whose last alternative can be ended joins a grammar that takes its item. -/
theorem Draft.finish_eq {d' : Draft} {g g' : Grammar} {p : Position} (hclosed : d.brackets = [])
    (hfinish : d.finishAlternative p = .ok d') (hinsert : g.insert d'.item = .ok g') :
    d.finish p g = .ok g' := by
  simp only [Draft.finish, hclosed, hfinish, bind, Except.bind, hinsert]

/-- The heading of an item begins its draft, once the item before it is complete. -/
theorem Reader.readAll_heading {g : Grammar} (hcomplete : ∀ p, r.complete p = .ok g) {name : String}
    {kind : ItemKind} (hcs : ReadAs (.heading name kind :: ps) cs) :
    ∃ p rest, ReadAs ps rest ∧ r.readAll cs =
      Reader.readAll { r with grammar := g, draft := some (.begin p name kind) } rest := by
  obtain ⟨p, c, rest, rfl, hc, hrest⟩ := readAs_cons_iff.1 hcs
  have hheading : (Phrase.heading name kind).clause? = some (.item name kind) := by
    cases kind <;> rfl
  obtain rfl := Option.some.inj (hheading.symm.trans hc)
  refine ⟨p, rest, hrest, ?_⟩
  simp only [Reader.readAll, Reader.step, hcomplete, bind, Except.bind]

/-- The phrases of an item leave a reader that only has to add it to its grammar. -/
theorem MakesItem.readAll {item : Item} (h : MakesItem ps item) {g g' : Grammar}
    (hcomplete : ∀ p, r.complete p = .ok g) (hinsert : g.insert item = .ok g')
    (hcs : ReadAs ps cs) :
    ∃ r', r.readAll cs = .ok r' ∧ (∀ p, r'.complete p = .ok g') ∧ r'.start = r.start := by
  have hdefinition : ∀ {name kind alternatives} {ps : List Phrase},
      MakesAlternatives kind ps alternatives → item = ⟨name, kind, alternatives⟩ →
      ReadAs (.heading name kind :: ps) cs →
      ∃ r', r.readAll cs = .ok r' ∧ (∀ p, r'.complete p = .ok g') ∧ r'.start = r.start := by
    rintro name kind alternatives ps halternatives rfl hcs
    obtain ⟨p, rest, hrest, hread⟩ := Reader.readAll_heading hcomplete hcs
    obtain ⟨d', hbecomes, hclosed, hfinish⟩ :=
      halternatives.becomes (d := .begin p name kind) rfl rfl rfl hrest
    rw [hread, hbecomes _ rfl]
    exact ⟨_, rfl, fun q => Draft.finish_eq hclosed (hfinish q) hinsert, rfl⟩
  cases h with
  | rule halternatives => exact hdefinition halternatives rfl hcs
  | token halternatives => exact hdefinition halternatives rfl hcs
  | @imported name =>
    have hcs : ReadAs [.heading name .imported] cs := hcs
    obtain ⟨p, rest, hrest, hread⟩ := Reader.readAll_heading hcomplete hcs
    obtain rfl := readAs_nil_iff.1 hrest
    have hfinish : ∀ q, (Draft.begin p name .imported).finishAlternative q =
        .ok (.begin p name .imported) := fun q => rfl
    rw [hread]
    exact ⟨_, rfl, fun q => Draft.finish_eq rfl (hfinish q) hinsert, rfl⟩

/-- The phrases of items in a row are read as these, if their names are distinct. -/
theorem MakesItems.readAll {items : List Item} (h : MakesItems ps items) {g : Grammar}
    (hcomplete : ∀ p, r.complete p = .ok g) (hnodup : ((g.items ++ items).map Item.name).Nodup)
    (hcs : ReadAs ps cs) :
    ∃ r' g', r.readAll cs = .ok r' ∧ (∀ p, r'.complete p = .ok g') ∧ r'.start = r.start ∧
      g'.items = g.items ++ items ∧ g'.start = g.start := by
  induction h generalizing r g cs with
  | nil =>
    obtain rfl := readAs_nil_iff.1 hcs
    exact ⟨r, g, rfl, hcomplete, rfl, by simp, rfl⟩
  | @cons _ _ item items hfirst _ ih =>
    obtain ⟨as, bs, rfl, has, hbs⟩ := readAs_append_iff.1 hcs
    have hfree : item.name ∉ g.names := by
      rw [List.map_append, List.nodup_append] at hnodup
      exact fun hmem => hnodup.2.2 _ hmem _ List.mem_cons_self rfl
    obtain ⟨g₁, hinsert, hitems₁, hstart₁⟩ :=
      Grammar.exists_insert_eq_ok hfirst.wellFormed hfree
    obtain ⟨r₁, hread₁, hcomplete₁, hsame₁⟩ := hfirst.readAll hcomplete hinsert has
    obtain ⟨r', g', hread', hcomplete', hsame', hitems', hstart'⟩ :=
      ih hcomplete₁ (by simpa [hitems₁] using hnodup) hbs
    refine ⟨r', g', ?_, hcomplete', hsame'.trans hsame₁, ?_, hstart'.trans hstart₁⟩
    · rw [Reader.readAll_append, hread₁]
      exact hread'
    · rw [hitems', hitems₁, List.append_assoc]
      rfl

/-- A clause that chooses no start item is read the same whichever one is chosen. -/
theorem Reader.step_start {r' : Reader} {p : Position} {c : Clause} (hc : ∀ name, c ≠ .start name)
    (hstep : r.step p c = .ok r') (start : Option (Position × String)) :
    Reader.step { r with start := start } p c = .ok { r' with start := start } := by
  cases c with
  | item name kind =>
    obtain ⟨g, hcomplete, hrest⟩ := exists_of_bind_eq_ok hstep
    cases hrest
    have hcomplete : Reader.complete { r with start := start } p = .ok g := hcomplete
    simp only [Reader.step, hcomplete, bind, Except.bind]
  | start name => exact absurd rfl (hc name)
  | body word piece =>
    simp only [Reader.step] at hstep ⊢
    split at hstep
    · cases hstep
    next d hdraft =>
    split at hstep
    · cases hstep
    next himported =>
    obtain ⟨piece, rfl, hpiece⟩ := exists_of_bind_eq_ok hstep
    obtain ⟨d₁, hadd, hrest⟩ := exists_of_bind_eq_ok hpiece
    cases hrest
    simp [himported, hadd, bind, Except.bind]
  | faulty e => cases hstep

theorem Phrase.ne_start_of_clause? {phrase : Phrase} {c : Clause}
    (hphrase : phrase.clause? = some c) (hstart : phrase.start? = none) :
    ∀ name, c ≠ .start name := by
  rintro name rfl
  cases says_of_clause? hphrase
  cases hstart

/-- The choice of the start item may be put anywhere: reading without it gives the same but for the
start chosen last. -/
theorem exists_readAs_withoutStarts {phrases : List Phrase} (h : ReadAs phrases cs) :
    ∃ cs', ReadAs (withoutStarts phrases) cs' ∧ ∀ r r' : Reader, r.readAll cs' = .ok r' →
      ∀ start, ∃ start',
        Reader.readAll { r with start := start } cs = .ok { r' with start := start' } ∧
        start'.map Prod.snd = (lastStart phrases).or (start.map Prod.snd) := by
  induction phrases generalizing cs with
  | nil =>
    obtain rfl := readAs_nil_iff.1 h
    refine ⟨[], rfl, ?_⟩
    rintro r _ ⟨⟩ start
    exact ⟨start, rfl, rfl⟩
  | cons phrase phrases ih =>
    obtain ⟨p, c, rest, rfl, hphrase, hrest⟩ := readAs_cons_iff.1 h
    obtain ⟨cs', hcs', hreads⟩ := ih hrest
    rw [← List.singleton_append, withoutStarts_append, lastStart_append]
    cases hstart : phrase.start? with
    | none =>
      have hne := Phrase.ne_start_of_clause? hphrase hstart
      refine ⟨(p, c) :: cs', ?_, fun r r' hread start => ?_⟩
      · simpa [withoutStarts, hstart] using readAs_cons_iff.2 ⟨p, c, cs', rfl, hphrase, hcs'⟩
      · obtain ⟨r₁, hstep, hrest⟩ := exists_of_bind_eq_ok hread
        obtain ⟨start', hread', hlast⟩ := hreads r₁ r' hrest start
        refine ⟨start', ?_, ?_⟩
        · rw [Reader.readAll, Reader.step_start hne hstep]
          exact hread'
        · simpa [lastStart, hstart] using hlast
    | some name =>
      obtain rfl : phrase = .start name := by
        cases phrase <;> cases hstart
        rfl
      cases hphrase
      refine ⟨cs', hcs', fun r r' hread start => ?_⟩
      obtain ⟨start', hread', hlast⟩ := hreads r r' hread (some (p, name))
      refine ⟨start', hread', ?_⟩
      rw [hlast, Option.or_assoc]
      rfl

/-- Phrases can be read as soon as those that choose no start item can. -/
theorem readable_of_withoutStarts {phrases : List Phrase}
    (h : ∀ phrase ∈ withoutStarts phrases, phrase.clause?.isSome) :
    ∀ phrase ∈ phrases, phrase.clause?.isSome := by
  intro phrase hphrase
  cases hstart : phrase.start? with
  | none => exact h phrase (List.mem_filter.2 ⟨hphrase, by simp [hstart]⟩)
  | some name => cases phrase <;> cases hstart; rfl

/-- A text whose items are complete is read as the grammar with the start chosen last. -/
theorem Reader.finish_eq {p : Position} {g g' : Grammar} (hcomplete : r.complete p = .ok g)
    (hitems : g'.items = g.items) (hnone : g.start = none)
    (hstart : r.start.map Prod.snd = g'.start) : r.finish p = .ok g' := by
  simp only [Reader.finish, hcomplete, bind, Except.bind]
  cases hchosen : r.start with
  | none =>
    have hstart' : g.start = g'.start := by rw [hnone, ← hstart, hchosen]; rfl
    exact congrArg Except.ok (Grammar.eq_of_items_of_start hitems.symm hstart')
  | some chosen =>
    have hstart' : g'.start = some chosen.2 := by rw [← hstart, hchosen]; rfl
    have hmem : chosen.2 ∈ g.names := by
      rw [Grammar.names, ← hitems]
      exact g'.start_mem _ hstart'
    simp only [Grammar.setStart_eq_ok_iff.2 ⟨hmem, hitems, hstart'⟩]

/-- Words that are cut into phrases which make the items of a grammar and choose its start are read
as that grammar. -/
theorem readWords_of_phrases {ws : List (Position × Word)} {phrases : List Phrase}
    (hwords : ws.map Prod.snd = phrases.flatMap Phrase.words) {g : Grammar}
    (hitems : MakesItems (withoutStarts phrases) g.items) (hstart : g.start = lastStart phrases)
    (stop : Position) : readWords ws stop = .ok g := by
  have hclauses := readAs_clauses (readable_of_withoutStarts hitems.readable) hwords
  obtain ⟨cs, hcs, hreads⟩ := exists_readAs_withoutStarts hclauses
  obtain ⟨r, g₁, hread, hcomplete, -, hitems₁, hstart₁⟩ :=
    hitems.readAll (r := .empty) (g := .empty) (fun p => rfl) g.nodup_names hcs
  obtain ⟨start, hread', hlast⟩ := hreads .empty r hread none
  have hchosen : start.map Prod.snd = g.start := by
    rw [hlast, hstart]
    exact Option.or_none
  have hfinish : Reader.finish { r with start := start } stop = .ok g :=
    Reader.finish_eq (hcomplete stop) hitems₁.symm hstart₁ hchosen
  unfold readWords
  rw [show Reader.empty.readAll (clauses ws) = .ok { r with start := start } from hread']
  exact hfinish

end

/-- The words of a text are read as a grammar with the given items and start exactly when they are
cut into phrases that make these items, with distinct names, and the start chosen last is one of
them. -/
theorem exists_readWords_eq_ok_iff (ws : List (Position × Word)) (stop : Position)
    (items : List Item) (start : Option String) :
    (∃ g, readWords ws stop = .ok g ∧ g.items = items ∧ g.start = start) ↔
      ∃ phrases, ws.map Prod.snd = phrases.flatMap Phrase.words ∧
        MakesItems (withoutStarts phrases) items ∧ (items.map Item.name).Nodup ∧
        start = lastStart phrases ∧ ∀ name ∈ start, name ∈ items.map Item.name := by
  constructor
  · rintro ⟨g, hread, rfl, rfl⟩
    obtain ⟨phrases, hwords, hitems, hstart⟩ := exists_phrases_of_readWords hread
    exact ⟨phrases, hwords, hitems, g.nodup_names, hstart, g.start_mem⟩
  · rintro ⟨phrases, hwords, hitems, hnodup, hstart, hmem⟩
    let g : Grammar := ⟨items, start, hnodup, hitems.wellFormed, hmem⟩
    exact ⟨g, readWords_of_phrases hwords hitems hstart stop, rfl, rfl⟩

end BranchLR.GrammarText
