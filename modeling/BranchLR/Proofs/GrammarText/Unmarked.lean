import BranchLR.GrammarText.Reader
import BranchLR.Proofs.GrammarText.Additions
import BranchLR.Proofs.GrammarText.Names

/-!
# Grammars that are read are unmarked

The reader takes names from clauses alone. As these are free of the mark of helpers, so are the
draft of an item while it is filled, the grammar that the item joins, and the grammar of the whole
text.
-/

namespace BranchLR

variable [RegexLibrary]

namespace GrammarText

/-- A draft without the mark of helpers in its name and its references. -/
structure Draft.Unmarked (d : Draft) : Prop where
  name : '#' ∉ d.item.name.toList
  alternatives : ∀ alternative ∈ d.item.alternatives, UnmarkedRules alternative
  alternative : UnmarkedRules d.alternative
  brackets : ∀ bracket ∈ d.brackets, UnmarkedRules bracket.rules

section

variable {d d' : Draft} {p : Position}

theorem Draft.unmarked_begin {name : String} (h : '#' ∉ name.toList) (p : Position)
    (kind : ItemKind) : (Draft.begin p name kind).Unmarked :=
  ⟨h, nofun, unmarkedRules_nil, nofun⟩

theorem Draft.Unmarked.finishAlternative (h : d.Unmarked)
    (hfinish : d.finishAlternative p = .ok d') : d'.Unmarked := by
  unfold Draft.finishAlternative at hfinish
  split at hfinish
  · cases hfinish
    exact h
  · split at hfinish
    · cases hfinish
    · cases hfinish
      refine ⟨h.name, fun alternative halternative => ?_, unmarkedRules_nil, h.brackets⟩
      rcases List.mem_append.1 halternative with halternative | halternative
      · exact h.alternatives alternative halternative
      · obtain rfl := List.mem_singleton.1 halternative
        exact h.alternative

theorem Draft.Unmarked.addRule (h : d.Unmarked) {r : Rule} (hr : UnmarkedRules [r])
    (hadd : d.addRule p r = .ok d') : d'.Unmarked := by
  have hextended : Draft.Unmarked { d with alternative := d.alternative ++ [r] } :=
    ⟨h.name, h.alternatives, h.alternative.append hr, h.brackets⟩
  unfold Draft.addRule at hadd
  split at hadd
  next b outer hbrackets =>
    split at hadd
    · cases hadd
    · cases hadd
      obtain ⟨hb, houter⟩ := List.forall_mem_cons.1 (hbrackets ▸ h.brackets)
      exact ⟨h.name, h.alternatives, h.alternative,
        List.forall_mem_cons.2 ⟨hb.append hr, houter⟩⟩
  next =>
    dsimp only at hadd
    split at hadd
    · split at hadd
      · cases hadd
        exact hextended
      · cases hadd
        exact hextended
      · cases hadd
    · split at hadd
      · cases hadd
      · cases hadd
        exact hextended

theorem Draft.Unmarked.closeBracket (h : d.Unmarked) {word : Word} {kind : BracketKind}
    (hclose : d.closeBracket p word kind = .ok d') : d'.Unmarked := by
  unfold Draft.closeBracket at hclose
  split at hclose
  next => cases hclose
  next b outer hbrackets =>
    obtain ⟨hb, houter⟩ := List.forall_mem_cons.1 (hbrackets ▸ h.brackets)
    have hd : Draft.Unmarked { d with brackets := outer } :=
      ⟨h.name, h.alternatives, h.alternative, houter⟩
    split at hclose
    · cases hclose
    · split at hclose
      · cases hclose
      · exact hd.addRule (hb.bracket kind) hclose

theorem Draft.Unmarked.addPiece (h : d.Unmarked) {word : Word} {piece : Piece}
    (hpiece : Clause.Unmarked (.body word (.ok piece)))
    (hadd : d.addPiece p word piece = .ok d') : d'.Unmarked := by
  cases piece with
  | rule r => exact h.addRule hpiece hadd
  | bar =>
    simp only [Draft.addPiece] at hadd
    split at hadd
    · exact h.finishAlternative hadd
    · cases hadd
  | opening kind =>
    cases hadd
    exact ⟨h.name, h.alternatives, h.alternative,
      List.forall_mem_cons.2 ⟨unmarkedRules_nil, h.brackets⟩⟩
  | closing kind => exact h.closeBracket hadd

/-- An item without the mark keeps a grammar unmarked. -/
theorem unmarked_of_insert {g g' : Grammar} {item : Item} (hg : g.Unmarked)
    (hname : '#' ∉ item.name.toList)
    (halternatives : ∀ alternative ∈ item.alternatives, UnmarkedRules alternative)
    (h : g.insert item = .ok g') : g'.Unmarked := by
  obtain ⟨-, -, hitems, -⟩ := Grammar.insert_eq_ok_iff.1 h
  refine ⟨fun name hmem => ?_, fun other hother => ?_⟩
  · rw [Grammar.names, hitems, List.map_append] at hmem
    rcases List.mem_append.1 hmem with hmem | hmem
    · exact hg.names name hmem
    · obtain rfl := List.mem_singleton.1 hmem
      exact hname
  · rw [hitems] at hother
    rcases List.mem_append.1 hother with hother | hother
    · exact hg.references other hother
    · obtain rfl := List.mem_singleton.1 hother
      exact halternatives

theorem Draft.Unmarked.finish (h : d.Unmarked) {g g' : Grammar} (hg : g.Unmarked)
    (hfinish : d.finish p g = .ok g') : g'.Unmarked := by
  unfold Draft.finish at hfinish
  split at hfinish
  next => cases hfinish
  next =>
    obtain ⟨d₁, hlast, hrest⟩ := exists_of_bind_eq_ok hfinish
    have h₁ := h.finishAlternative hlast
    split at hrest
    next hinsert =>
      cases hrest
      exact unmarked_of_insert hg h₁.name h₁.alternatives hinsert
    next => cases hrest

end

/-- A reader without the mark of helpers in what it has read. -/
structure Reader.Unmarked (r : Reader) : Prop where
  grammar : r.grammar.Unmarked
  draft : ∀ d ∈ r.draft, d.Unmarked

section

variable {r r' : Reader} {p : Position}

theorem Reader.unmarked_empty : Reader.empty.Unmarked := ⟨⟨nofun, nofun⟩, nofun⟩

theorem Reader.Unmarked.complete (h : r.Unmarked) {g : Grammar} (hcomplete : r.complete p = .ok g) :
    g.Unmarked := by
  unfold Reader.complete at hcomplete
  split at hcomplete
  next =>
    cases hcomplete
    exact h.grammar
  next d hdraft => exact (h.draft d hdraft).finish h.grammar hcomplete

/-- Reading an unmarked clause keeps a reader unmarked. -/
theorem Reader.Unmarked.step (h : r.Unmarked) {c : Clause} (hc : c.Unmarked)
    (hstep : r.step p c = .ok r') : r'.Unmarked := by
  cases c with
  | item name kind =>
    obtain ⟨g, hcomplete, hrest⟩ := exists_of_bind_eq_ok hstep
    cases hrest
    refine ⟨h.complete hcomplete, fun d hd => ?_⟩
    cases hd
    exact Draft.unmarked_begin hc p kind
  | start name =>
    cases hstep
    exact ⟨h.grammar, h.draft⟩
  | body word piece =>
    simp only [Reader.step] at hstep
    split at hstep
    next => cases hstep
    next d hdraft =>
      split at hstep
      · cases hstep
      · obtain ⟨piece, rfl, hpiece⟩ := exists_of_bind_eq_ok hstep
        obtain ⟨d₁, hadd, hrest⟩ := exists_of_bind_eq_ok hpiece
        cases hrest
        refine ⟨h.grammar, fun d' hd' => ?_⟩
        cases hd'
        exact (h.draft d hdraft).addPiece hc hadd
  | faulty e => cases hstep

/-- Reading unmarked clauses keeps a reader unmarked. -/
theorem Reader.Unmarked.readAll (h : r.Unmarked) {cs : List (Position × Clause)}
    (hcs : ∀ c ∈ cs, c.2.Unmarked) (hread : r.readAll cs = .ok r') : r'.Unmarked := by
  induction cs generalizing r with
  | nil =>
    cases hread
    exact h
  | cons c cs ih =>
    obtain ⟨hc, hcs⟩ := List.forall_mem_cons.1 hcs
    obtain ⟨r₁, hstep, hrest⟩ := exists_of_bind_eq_ok hread
    exact ih (h.step hc hstep) hcs hrest

theorem Reader.Unmarked.finish (h : r.Unmarked) {g : Grammar} (hfinish : r.finish p = .ok g) :
    g.Unmarked := by
  unfold Reader.finish at hfinish
  obtain ⟨g₁, hcomplete, hrest⟩ := exists_of_bind_eq_ok hfinish
  have h₁ := h.complete hcomplete
  split at hrest
  next =>
    cases hrest
    exact h₁
  next q name =>
    split at hrest
    next g₂ hstart =>
      cases hrest
      obtain ⟨-, hitems, -⟩ := Grammar.setStart_eq_ok_iff.1 hstart
      exact ⟨by rw [Grammar.names, hitems]; exact h₁.names, hitems ▸ h₁.references⟩
    next => cases hrest

end

end GrammarText

/-- A grammar that has been read from a text is unmarked. -/
theorem Grammar.unmarked_of_read [BracketSet] {text : String} {g : Grammar}
    (h : Grammar.read text = .ok g) : g.Unmarked := by
  unfold Grammar.read at h
  split at h
  next => cases h
  next ws stop hwords =>
    have hws : ∀ w ∈ ws, w.2.Unmarked := by
      unfold GrammarText.words at hwords
      dsimp only at hwords
      split at hwords
      · cases hwords
      · cases hwords
        exact GrammarText.unmarked_of_mem_wordsOf _
    unfold GrammarText.readWords at h
    obtain ⟨r, hread, hfinish⟩ := exists_of_bind_eq_ok h
    have hclauses := GrammarText.unmarked_of_mem_clauses ws hws
    exact (GrammarText.Reader.unmarked_empty.readAll hclauses hread).finish hfinish

end BranchLR
