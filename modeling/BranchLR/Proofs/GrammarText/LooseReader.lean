import BranchLR.GrammarText.Reader
import BranchLR.Proofs.GrammarText.Drafts

/-!
# Reading with loose parts

A draft holds the item being defined together with its alternative and its brackets. Here these
parts lie side by side, so that a rule could come without an item, an alternative could be left over
when an item ends, and an item could be handed to the grammar in a state that the grammar rejects.
Each of these would show in the outcome of the reading. None does: as long as drafts are orderly,
the loose reading takes the same steps as the reader and stops where it stops.
-/

namespace BranchLR.GrammarText

variable [RegexLibrary]

/-- What has been read of a grammar text, with the parts of the item being defined side by side. -/
structure LooseReader where
  grammar : Grammar
  /-- The item being defined with its finished alternatives, and where its definition starts. -/
  current : Option (Position × Item)
  alternative : List Rule
  /-- The open brackets, innermost first. -/
  brackets : List OpenBracket
  start : Option (Position × String)

/-- Why a loose reading stops before the end of the text. -/
inductive Halt where
  /-- There is an error in the text. -/
  | refused (e : SyntaxError)
  /-- The grammar rejects the item that is handed to it, whose definition starts at the position. -/
  | rejected (p : Position) (e : GrammarError)
  /-- There is no item to which the rule could be added. -/
  | unowned (r : Rule)
  deriving DecidableEq

namespace LooseReader

/-- Nothing has been read. -/
def empty : LooseReader := ⟨.empty, none, [], [], none⟩

/-- Checks that a body may go on: an item is being defined, and it is no imported token. -/
def checkBody (s : LooseReader) (p : Position) (word : Word) : Except Halt Unit :=
  match s.current with
  | none => .error (.refused ⟨p, .ruleOutsideItem word.render⟩)
  | some (_, item) =>
    if item.isImported then .error (.refused ⟨p, .importedTokenBody item.name⟩) else .ok ()

/-- Adds a rule to the innermost open bracket, or to the alternative if none is open. Only in the
second case the item matters. -/
def addRule (s : LooseReader) (p : Position) (r : Rule) : Except Halt LooseReader :=
  match s.brackets with
  | b :: outer =>
    match r with
    | .pattern _ => .error (.refused ⟨p, .patternOutsideToken⟩)
    | r => .ok { s with brackets := { b with rules := b.rules ++ [r] } :: outer }
  | [] =>
    let extended : LooseReader := { s with alternative := s.alternative ++ [r] }
    match s.current with
    | none => .error (.unowned r)
    | some (_, item) =>
      if item.isToken then
        match r, s.alternative with
        | .literal _, [] => .ok extended
        | .pattern _, [] => .ok extended
        | _, _ => .error (.refused ⟨p, .tokenBody item.name⟩)
      else
        match r with
        | .pattern _ => .error (.refused ⟨p, .patternOutsideToken⟩)
        | _ => .ok extended

/-- Closes the innermost bracket, which has to be of the given kind and to hold a rule. -/
def closeBracket (s : LooseReader) (p : Position) (word : Word) (kind : BracketKind) :
    Except Halt LooseReader :=
  match s.brackets with
  | [] => .error (.refused ⟨p, .mismatchedBracket word.render⟩)
  | b :: outer =>
    if b.kind ≠ kind then .error (.refused ⟨p, .mismatchedBracket word.render⟩)
    else if b.rules.isEmpty then .error (.refused ⟨p, .emptyBracket⟩)
    else { s with brackets := outer }.addRule p (kind.rule b.rules)

/-- Ends the alternative being filled, if there is an item that takes alternatives. -/
def finishAlternative (s : LooseReader) (p : Position) : Except Halt LooseReader :=
  match s.current with
  | none => .ok s
  | some (q, item) =>
    if item.isImported then .ok s
    else if s.alternative.isEmpty then .error (.refused ⟨p, .emptyAlternative⟩)
    else
      .ok { s with
        current := some (q, { item with alternatives := item.alternatives ++ [s.alternative] })
        alternative := [] }

/-- Hands the item being defined over to the grammar, if there is one. -/
def finishItem (s : LooseReader) : Except Halt LooseReader :=
  match s.current with
  | none => .ok s
  | some (q, item) =>
    match s.grammar.insert item with
    | .ok g => .ok { s with grammar := g, current := none }
    | .error e => .error (.rejected q e)

/-- Ends the item being defined. -/
def endItem (s : LooseReader) (p : Position) : Except Halt LooseReader :=
  match s.brackets with
  | b :: _ => .error (.refused ⟨b.position, .unclosedBracket⟩)
  | [] => do
    let s ← s.finishAlternative p
    s.finishItem

/-- Adds a part of the body. -/
def addPiece (s : LooseReader) (p : Position) (word : Word) : Piece → Except Halt LooseReader
  | .rule r => s.addRule p r
  | .bar =>
    if s.brackets.isEmpty then s.finishAlternative p
    else .error (.refused ⟨p, .barInsideBracket⟩)
  | .opening kind => .ok { s with brackets := ⟨p, kind, []⟩ :: s.brackets }
  | .closing kind => s.closeBracket p word kind

/-- Reads one clause. -/
def step (s : LooseReader) (p : Position) : Clause → Except Halt LooseReader
  | .item name kind => do
    let s ← s.endItem p
    .ok { s with current := some (p, ⟨name, kind, []⟩) }
  | .start name => .ok { s with start := some (p, name) }
  | .body word piece => do
    s.checkBody p word
    match piece with
    | .error e => .error (.refused e)
    | .ok piece => s.addPiece p word piece
  | .faulty e => .error (.refused e)

/-- Reads a sequence of clauses. -/
def readAll (s : LooseReader) : List (Position × Clause) → Except Halt LooseReader
  | [] => .ok s
  | (p, c) :: rest => do
    let s ← s.step p c
    s.readAll rest

/-- The grammar of a text that ends at the given position, once all its clauses are read. -/
def finish (s : LooseReader) (p : Position) : Except Halt Grammar := do
  let s ← s.endItem p
  match s.start with
  | none => .ok s.grammar
  | some (q, name) =>
    match s.grammar.setStart name with
    | .ok g => .ok g
    | .error e => .error (.refused ⟨q, .ofGrammarError e⟩)

/-- The grammar that a text stands for. -/
def read [BracketSet] (text : String) : Except Halt Grammar :=
  match words text with
  | .error e => .error (.refused (.ofLexicalError e))
  | .ok (ws, stop) => do
    let s ← empty.readAll (clauses ws)
    s.finish stop

end LooseReader

/-! ### Orderly drafts -/

/-- No finished alternative is empty, and an imported token has none and fills none. -/
structure Draft.Orderly (d : Draft) : Prop where
  nonempty : [] ∉ d.item.alternatives
  imported : d.item.isImported = true → d.item.alternatives = [] ∧ d.alternative = []

namespace Draft

variable {d d' : Draft} {p : Position}

theorem orderly_begin (p : Position) (name : String) (kind : ItemKind) :
    (begin p name kind).Orderly :=
  ⟨List.not_mem_nil, fun _ => ⟨rfl, rfl⟩⟩

theorem item_of_addRule {r : Rule} (h : d.addRule p r = .ok d') :
    d'.position = d.position ∧ d'.item = d.item := by
  unfold addRule at h
  split at h
  · split at h
    · cases h
    · cases h
      exact ⟨rfl, rfl⟩
  · dsimp only at h
    split at h
    · split at h
      · cases h
        exact ⟨rfl, rfl⟩
      · cases h
        exact ⟨rfl, rfl⟩
      · cases h
    · split at h
      · cases h
      · cases h
        exact ⟨rfl, rfl⟩

theorem item_of_closeBracket {word : Word} {kind : BracketKind}
    (h : d.closeBracket p word kind = .ok d') :
    d'.position = d.position ∧ d'.item = d.item := by
  unfold closeBracket at h
  split at h
  · cases h
  · split at h
    · cases h
    · split at h
      · cases h
      · exact (item_of_addRule h :)

/-- Ending an alternative adds it to the item, unless the item is an imported token. -/
theorem finishAlternative_cases (h : d.finishAlternative p = .ok d') :
    d.item.isImported = true ∧ d' = d ∨
      d.item.isImported = false ∧ d.alternative ≠ [] ∧
        d' = { d with
          item := { d.item with alternatives := d.item.alternatives ++ [d.alternative] }
          alternative := [] } := by
  cases himported : d.item.isImported with
  | true =>
    unfold finishAlternative at h
    rw [if_pos himported] at h
    cases h
    exact .inl ⟨rfl, rfl⟩
  | false =>
    obtain ⟨hne, heq⟩ := (finishAlternative_eq_ok_iff himported).1 h
    exact .inr ⟨rfl, hne, heq.symm⟩

theorem Orderly.finishAlternative (h : d.Orderly) (hfinish : d.finishAlternative p = .ok d') :
    d'.Orderly := by
  rcases finishAlternative_cases hfinish with ⟨-, rfl⟩ | ⟨himported, hne, rfl⟩
  · exact h
  · refine ⟨fun hmem => ?_, fun himported' => ?_⟩
    · rcases List.mem_append.1 hmem with hmem | hmem
      · exact h.nonempty hmem
      · exact hne (List.mem_singleton.1 hmem).symm
    · exact absurd himported' (by simpa [Item.isImported] using himported)

theorem heading_of_finishAlternative (h : d.finishAlternative p = .ok d') :
    d'.position = d.position ∧ d'.item.name = d.item.name := by
  rcases finishAlternative_cases h with ⟨-, rfl⟩ | ⟨-, -, rfl⟩
  · exact ⟨rfl, rfl⟩
  · exact ⟨rfl, rfl⟩

/-- Nothing is left over of an alternative that is ended. -/
theorem Orderly.alternative_eq_nil (h : d.Orderly) (hfinish : d.finishAlternative p = .ok d') :
    d'.alternative = [] ∧ d'.brackets = d.brackets := by
  rcases finishAlternative_cases hfinish with ⟨himported, rfl⟩ | ⟨-, -, rfl⟩
  · exact ⟨(h.imported himported).2, rfl⟩
  · exact ⟨rfl, rfl⟩

/-- A part of the body leaves the item as it is, or ends the alternative being filled. -/
theorem addPiece_cases {word : Word} {piece : Piece} (h : d.addPiece p word piece = .ok d') :
    d'.position = d.position ∧ d'.item = d.item ∨ d.finishAlternative p = .ok d' := by
  cases piece with
  | rule r => exact .inl (item_of_addRule h)
  | bar =>
    simp only [addPiece] at h
    split at h
    · exact .inr h
    · cases h
  | opening kind =>
    cases h
    exact .inl ⟨rfl, rfl⟩
  | closing kind => exact .inl (item_of_closeBracket h)

theorem Orderly.addPiece (h : d.Orderly) (himported : d.item.isImported = false) {word : Word}
    {piece : Piece} (hadd : d.addPiece p word piece = .ok d') : d'.Orderly := by
  rcases addPiece_cases hadd with ⟨-, hitem⟩ | hfinish
  · refine ⟨hitem ▸ h.nonempty, fun himported' => ?_⟩
    rw [hitem, himported] at himported'
    cases himported'
  · exact h.finishAlternative hfinish

/-- A draft whose last alternative is ended holds an item as grammars have them. -/
theorem Orderly.wellFormed (h : d.Orderly) (hfinish : d.finishAlternative p = .ok d') :
    d'.item.WellFormed := by
  refine ⟨?_, (h.finishAlternative hfinish).nonempty⟩
  rcases finishAlternative_cases hfinish with ⟨himported, rfl⟩ | ⟨himported, -, rfl⟩
  · simp [himported, (h.imported himported).1]
  · simpa [Item.isImported] using himported

end Draft

/-! ### The same steps -/

/-- The outcome of a loose reading mirrors that of the reader: both succeed alike, or both stop with
the same error. Items are rejected only as the given relation says. -/
inductive Mirrors (rejects : Position → GrammarError → Prop) {α β : Type} (loose : α → β) :
    Except SyntaxError α → Except Halt β → Prop
  | ok (a : α) : Mirrors rejects loose (.ok a) (.ok (loose a))
  | refused (e : SyntaxError) : Mirrors rejects loose (.error e) (.error (.refused e))
  | rejected {p : Position} {e : GrammarError} (h : rejects p e) :
      Mirrors rejects loose (.error ⟨p, .ofGrammarError e⟩) (.error (.rejected p e))

section

variable {rejects : Position → GrammarError → Prop}

theorem Mirrors.imp {rejects' : Position → GrammarError → Prop} {α β : Type} {loose : α → β}
    {x : Except SyntaxError α} {y : Except Halt β} (h : Mirrors rejects loose x y)
    (himp : ∀ p e, rejects p e → rejects' p e) : Mirrors rejects' loose x y := by
  cases h with
  | ok a => exact .ok a
  | refused e => exact .refused e
  | rejected h => exact .rejected (himp _ _ h)

/-- Steps in a row mirror each other if each of them does. -/
theorem Mirrors.bind {α β γ δ : Type} {loose : α → β} {loose' : γ → δ} {x : Except SyntaxError α}
    {y : Except Halt β} {k : α → Except SyntaxError γ} {k' : β → Except Halt δ}
    (h : Mirrors rejects loose x y)
    (hk : ∀ a, x = .ok a → Mirrors rejects loose' (k a) (k' (loose a))) :
    Mirrors rejects loose' (x >>= k) (y >>= k') := by
  cases h with
  | ok a => exact hk a rfl
  | refused e => exact .refused e
  | rejected h => exact .rejected h

theorem Mirrors.packed {α β γ : Type} {loose : α → γ} {loose' : β → γ} {pack : α → β}
    {x : Except SyntaxError α} {y : Except Halt γ} (h : Mirrors rejects loose x y)
    (hpack : ∀ a, loose' (pack a) = loose a) :
    Mirrors rejects loose' (x >>= fun a => .ok (pack a)) y := by
  cases h with
  | ok a =>
    rw [← hpack]
    exact .ok _
  | refused e => exact .refused e
  | rejected h => exact .rejected h

/-- A draft with its parts side by side. -/
def Draft.loose (g : Grammar) (start : Option (Position × String)) (d : Draft) : LooseReader :=
  ⟨g, some (d.position, d.item), d.alternative, d.brackets, start⟩

/-- A reader with the parts of its draft side by side. -/
def Reader.loose (r : Reader) : LooseReader :=
  match r.draft with
  | none => ⟨r.grammar, none, [], [], r.start⟩
  | some d => d.loose r.grammar r.start

namespace Draft

variable (d : Draft) (p : Position) (g : Grammar) (start : Option (Position × String))

theorem mirrors_finishAlternative :
    Mirrors rejects (loose g start) (d.finishAlternative p)
      ((d.loose g start).finishAlternative p) := by
  unfold finishAlternative LooseReader.finishAlternative
  by_cases himported : d.item.isImported = true
  · simp only [loose, himported, if_true]
    exact .ok d
  · by_cases hempty : d.alternative.isEmpty = true
    · simp only [loose, himported, hempty, if_true]
      exact .refused _
    · simp only [loose, himported, hempty]
      exact .ok _

theorem mirrors_addRule (r : Rule) :
    Mirrors rejects (loose g start) (d.addRule p r) ((d.loose g start).addRule p r) := by
  obtain ⟨q, item, alternative, brackets⟩ := d
  unfold addRule LooseReader.addRule
  cases brackets with
  | cons b outer =>
    cases r with
    | pattern => exact .refused _
    | _ => exact .ok _
  | nil =>
    by_cases htoken : item.isToken = true
    · simp only [loose, htoken, if_true]
      cases alternative with
      | cons => cases r <;> exact .refused _
      | nil =>
        cases r with
        | literal => exact .ok _
        | pattern => exact .ok _
        | _ => exact .refused _
    · simp only [loose, htoken]
      cases r with
      | pattern => exact .refused _
      | _ => exact .ok _

theorem mirrors_closeBracket (word : Word) (kind : BracketKind) :
    Mirrors rejects (loose g start) (d.closeBracket p word kind)
      ((d.loose g start).closeBracket p word kind) := by
  obtain ⟨q, item, alternative, brackets⟩ := d
  unfold closeBracket LooseReader.closeBracket
  cases brackets with
  | nil => exact .refused _
  | cons b outer =>
    by_cases hkind : b.kind = kind
    · by_cases hempty : b.rules.isEmpty = true
      · simp only [loose, hkind, ne_eq, not_true_eq_false, hempty, if_false, if_true]
        exact .refused _
      · simp only [loose, hkind, ne_eq, not_true_eq_false, hempty, if_false]
        exact mirrors_addRule ⟨q, item, alternative, outer⟩ p g start (kind.rule b.rules)
    · simp only [loose, ne_eq, hkind, not_false_eq_true, if_true]
      exact .refused _

theorem mirrors_addPiece (word : Word) (piece : Piece) :
    Mirrors rejects (loose g start) (d.addPiece p word piece)
      ((d.loose g start).addPiece p word piece) := by
  cases piece with
  | rule r => exact d.mirrors_addRule p g start r
  | bar =>
    unfold addPiece LooseReader.addPiece
    by_cases hclosed : d.brackets.isEmpty = true
    · simp only [loose, hclosed, if_true]
      exact d.mirrors_finishAlternative p g start
    · simp only [loose, hclosed]
      exact .refused _
  | opening kind => exact .ok _
  | closing kind => exact d.mirrors_closeBracket p g start word kind

/-- An item that ends joins the grammar and leaves nothing of its draft behind, or its name is
taken. -/
theorem Orderly.mirrors_finish {d : Draft} (h : d.Orderly)
    (htaken : d.item.name ∈ g.names → rejects d.position (.duplicateItem d.item.name)) :
    Mirrors rejects (fun g' => ⟨g', none, [], [], start⟩) (d.finish p g)
      ((d.loose g start).endItem p) := by
  unfold finish LooseReader.endItem
  cases hbrackets : d.brackets with
  | cons b outer =>
    simp only [loose, hbrackets]
    exact .refused _
  | nil =>
    have hclosed : (d.loose g start).brackets = [] := hbrackets
    simp only [hclosed]
    refine (d.mirrors_finishAlternative p g start).bind fun d' hfinish => ?_
    obtain ⟨halternative, hopen⟩ := h.alternative_eq_nil hfinish
    obtain ⟨hposition, hname⟩ := heading_of_finishAlternative hfinish
    rw [hbrackets] at hopen
    unfold LooseReader.finishItem
    simp only [loose, halternative, hopen]
    cases hinsert : g.insert d'.item with
    | ok g' => exact .ok g'
    | error e =>
      obtain ⟨rfl, hmem⟩ := Grammar.taken_of_insert_eq_error (h.wellFormed hfinish) hinsert
      rw [hname] at hmem
      simp only [hposition, hname]
      exact .rejected (htaken hmem)

end Draft

/-- A reader whose draft is orderly. -/
def Reader.Orderly (r : Reader) : Prop := ∀ d ∈ r.draft, d.Orderly

namespace Reader

variable {r r' : Reader} {p : Position}

theorem orderly_empty : empty.Orderly := nofun

/-- What a clause that is accepted can do: an item begins once the one before is complete, a start
is chosen, or a part is added to the draft, which is not of an imported token. -/
theorem step_cases {c : Clause} (h : r.step p c = .ok r') :
    (∃ name kind g, c = .item name kind ∧ r.complete p = .ok g ∧
      r' = { r with grammar := g, draft := some (.begin p name kind) }) ∨
    (∃ name, c = .start name ∧ r' = { r with start := some (p, name) }) ∨
    ∃ word piece d d', c = .body word (.ok piece) ∧ r.draft = some d ∧
      d.item.isImported = false ∧ d.addPiece p word piece = .ok d' ∧
      r' = { r with draft := some d' } := by
  cases c with
  | item name kind =>
    obtain ⟨g, hcomplete, hrest⟩ := exists_of_bind_eq_ok h
    cases hrest
    exact .inl ⟨name, kind, g, rfl, hcomplete, rfl⟩
  | start name =>
    cases h
    exact .inr (.inl ⟨name, rfl, rfl⟩)
  | body word piece =>
    simp only [step] at h
    split at h
    next => cases h
    next d hdraft =>
      split at h
      · cases h
      next himported =>
        have himported : d.item.isImported = false := Bool.not_eq_true _ ▸ himported
        obtain ⟨piece, rfl, hpiece⟩ := exists_of_bind_eq_ok h
        obtain ⟨d', hadd, hrest⟩ := exists_of_bind_eq_ok hpiece
        cases hrest
        exact .inr (.inr ⟨word, piece, d, d', rfl, hdraft, himported, hadd, rfl⟩)
  | faulty e => cases h

theorem Orderly.step (h : r.Orderly) {c : Clause} (hstep : r.step p c = .ok r') : r'.Orderly := by
  rcases step_cases hstep with ⟨name, kind, g, -, -, rfl⟩ | ⟨name, -, rfl⟩ |
    ⟨word, piece, d, d', -, hdraft, himported, hadd, rfl⟩
  · intro d hd
    cases hd
    exact Draft.orderly_begin p name kind
  · exact h
  · intro d hd
    cases hd
    exact (h _ hdraft).addPiece himported hadd

section

variable (h : r.Orderly) (htaken : ∀ d ∈ r.draft, d.item.name ∈ r.grammar.names →
  rejects d.position (.duplicateItem d.item.name))

include h htaken

theorem Orderly.mirrors_complete (p : Position) :
    Mirrors rejects (fun g => ⟨g, none, [], [], r.start⟩) (r.complete p) (r.loose.endItem p) := by
  unfold complete loose
  cases hdraft : r.draft with
  | none => exact .ok r.grammar
  | some d => exact (h d hdraft).mirrors_finish p r.grammar r.start (htaken d hdraft)

/-- The loose reading takes the step of the reader. -/
theorem Orderly.mirrors_step (p : Position) (c : Clause) :
    Mirrors rejects loose (r.step p c) (r.loose.step p c) := by
  cases c with
  | item name kind => exact (h.mirrors_complete htaken p).bind fun g _ => .ok _
  | start name =>
    obtain ⟨g, draft, start⟩ := r
    cases draft with
    | none => exact .ok _
    | some d => exact .ok _
  | body word piece =>
    obtain ⟨g, draft, start⟩ := r
    cases draft with
    | none => exact .refused _
    | some d =>
      unfold Reader.step LooseReader.step LooseReader.checkBody
      by_cases himported : d.item.isImported = true
      · simp only [loose, Draft.loose, himported, if_true]
        exact .refused _
      · simp only [loose, Draft.loose, himported]
        cases piece with
        | error e => exact .refused e
        | ok piece => exact (d.mirrors_addPiece p g start word piece).packed fun _ => rfl
  | faulty e => exact .refused e

theorem Orderly.mirrors_finish (p : Position) :
    Mirrors rejects id (r.finish p) (r.loose.finish p) := by
  refine (h.mirrors_complete htaken p).bind fun g _ => ?_
  cases r.start with
  | none => exact .ok g
  | some choice =>
    simp only
    cases g.setStart choice.2 with
    | ok g' => exact .ok g'
    | error e => exact .refused _

end

end Reader

end

end BranchLR.GrammarText
