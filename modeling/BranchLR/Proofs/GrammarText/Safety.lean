import BranchLR.Text.BracketPairs
import BranchLR.Pattern.Engine
import BranchLR.Proofs.GrammarText.LooseReader
import BranchLR.Proofs.GrammarText.Spelling
import BranchLR.Proofs.Lexing.Tiling
import Mathlib.Data.List.Nodup

/-!
# Safe reading

Reading a text never runs into a case that the reader rules out. The marks of a quotation take one
byte each, so what stands between them can be cut out by its offsets. An item is rejected only for
its name. The reader recalls the headings it has read: they are the names of the grammar in order
and then the one of its draft. As the names of a grammar are distinct, an item that is rejected is
the second one of its name, and its draft tells where it starts.
-/

namespace BranchLR.GrammarText

/-! ### Quotations -/

/-- The characters of a text between two byte offsets, if these are in order and stand between
characters. -/
def slice? (text : String) (first last : Nat) : Option (List Char) :=
  if first ≤ last ∧ String.Pos.Raw.isValid text ⟨first⟩ = true ∧
      String.Pos.Raw.isValid text ⟨last⟩ = true then
    some (charsBetween text first last)
  else none

theorem utf8Size_of_isQuote {mark : Char} (h : isQuote mark = true) : mark.utf8Size = 1 := by
  simp only [isQuote, Bool.or_eq_true, beq_iff_eq] at h
  rcases h with rfl | rfl
  · rfl
  · rfl

/-- What stands between two marks is cut out one byte behind the start and one byte before the
end. -/
theorem slice?_quotation {mark : Char} (hmark : isQuote mark = true) (raw : List Char) :
    slice? (String.ofList (mark :: (raw ++ [mark]))) 1
      ((String.ofList (mark :: (raw ++ [mark]))).utf8ByteSize - 1) = some raw := by
  have hsize := utf8Size_of_isQuote hmark
  have htext : (String.ofList (mark :: (raw ++ [mark]))).toList = [mark] ++ raw ++ [mark] := by simp
  have hfirst : byteLength [mark] = 1 := by simp [byteLength, hsize]
  have hlast : (String.ofList (mark :: (raw ++ [mark]))).utf8ByteSize - 1 =
      byteLength [mark] + byteLength raw := by
    rw [← byteLength_toList, htext, byteLength_append, byteLength_append, hfirst]
    omega
  have hstart := isValid_of_eq_append (htext.trans (List.append_assoc _ _ _))
  have hend := isValid_of_eq_append htext
  have hbetween := charsBetween_of_eq_append htext
  rw [byteLength_append, ← hlast] at hend
  rw [← hlast] at hbetween
  rw [hfirst] at hstart hbetween
  rw [slice?, if_pos, hbetween]
  exact ⟨by omega, String.Pos.Raw.isValid_eq_true_iff.2 hstart,
    String.Pos.Raw.isValid_eq_true_iff.2 hend⟩

theorem eq_of_split_quotation [BracketSet] {s : LexicalSettings} {c mark : Char}
    {tail body rest : List Char} (h : s.split c tail = some (.quotation mark, body, rest)) :
    c = mark := by
  cases hquote : isQuote c with
  | true =>
    simp only [LexicalSettings.split, hquote, if_true] at h
    obtain ⟨_, _, heq⟩ := Option.map_eq_some_iff.1 h
    cases heq
    rfl
  | false =>
    rw [LexicalSettings.split_of_shape hquote rfl] at h
    have hkind : (s.shape c).kind = .quotation mark := (Prod.mk.inj (Option.some.inj h)).1
    cases hshape : s.shape c <;> simp [hshape, LexemeShape.kind] at hkind

/-- A quotation among lexemes has a mark at its start and another one at its end. -/
theorem exists_raw_of_mem_scanFrom [BracketSet] (p : Position) (offset : Nat) (cs : List Char)
    {x : Lexeme} (h : x ∈ (scanFrom settings p offset cs).lexemes) {mark : Char}
    (hkind : x.kind = .quotation mark) :
    isQuote mark = true ∧ ∃ raw, x.text = mark :: (raw ++ [mark]) := by
  induction cs using LexicalSettings.text_induction (s := settings) generalizing p offset with
  | nil =>
    rw [scanFrom] at h
    cases h
  | unended c tail hsplit =>
    rw [scanFrom_cons_of_unterminated hsplit] at h
    cases h
  | lexeme c tail kind body rest hsplit ih =>
    rw [scanFrom_cons hsplit] at h
    rcases List.mem_cons.1 h with rfl | h
    · obtain rfl : kind = .quotation mark := hkind
      obtain ⟨hmark, raw, rfl, -⟩ := exists_quotable_of_split hsplit
      exact ⟨hmark, raw, by rw [eq_of_split_quotation hsplit]⟩
    · exact ih _ _ h

section Library

variable [RegexLibrary]

/-! ### Headings -/

/-- The name that a clause declares. -/
def Clause.heading? : Clause → Option String
  | item name _ => some name
  | _ => none

/-- The names that clauses declare, each with the place where its definition starts. -/
def headings (cs : List (Position × Clause)) : List (Position × String) :=
  cs.filterMap fun c => c.2.heading?.map fun name => (c.1, name)

/-- The places where the definitions of a name start. -/
def definitionsOf (name : String) (cs : List (Position × Clause)) : List Position :=
  ((headings cs).filter fun heading => heading.2 == name).map Prod.fst

theorem headings_append (as bs : List (Position × Clause)) :
    headings (as ++ bs) = headings as ++ headings bs :=
  List.filterMap_append

/-- The heading of the item being defined. -/
def Draft.heading (d : Draft) : Position × String := (d.position, d.item.name)

theorem Draft.heading_of_addPiece {d d' : Draft} {p : Position} {word : Word} {piece : Piece}
    (h : d.addPiece p word piece = .ok d') : d'.heading = d.heading := by
  rcases addPiece_cases h with ⟨hposition, hitem⟩ | hfinish
  · rw [heading, hposition, hitem, heading]
  · obtain ⟨hposition, hname⟩ := heading_of_finishAlternative hfinish
    rw [heading, hposition, hname, heading]

/-- The clauses have declared the items of the grammar, and then the one of the draft. -/
def Reader.Recalls (r : Reader) (cs : List (Position × Clause)) : Prop :=
  ∃ earlier, earlier.map Prod.snd = r.grammar.names ∧
    headings cs = earlier ++ (r.draft.map Draft.heading).toList

namespace Reader

variable {r r' : Reader} {p : Position} {before : List (Position × Clause)}

theorem recalls_empty : empty.Recalls [] := ⟨[], rfl, rfl⟩

theorem names_of_complete {g : Grammar} (h : r.complete p = .ok g) :
    g.names = r.grammar.names ++ ((r.draft.map Draft.heading).toList).map Prod.snd := by
  unfold complete at h
  split at h
  next hdraft =>
    cases h
    simp [hdraft]
  next d hdraft =>
    unfold Draft.finish at h
    split at h
    · cases h
    · obtain ⟨d', hfinish, hrest⟩ := exists_of_bind_eq_ok h
      obtain ⟨-, hname⟩ := Draft.heading_of_finishAlternative hfinish
      split at hrest
      next hinsert =>
        cases hrest
        obtain ⟨-, -, hitems, -⟩ := Grammar.insert_eq_ok_iff.1 hinsert
        simp [Grammar.names, hitems, hdraft, hname, Draft.heading]
      next => cases hrest

/-- A clause that is read is recalled. -/
theorem Recalls.step (h : r.Recalls before) {c : Clause} (hstep : r.step p c = .ok r') :
    r'.Recalls (before ++ [(p, c)]) := by
  obtain ⟨earlier, hnames, hheadings⟩ := h
  rw [Recalls, headings_append, hheadings]
  rcases step_cases hstep with ⟨name, kind, g, rfl, hcomplete, rfl⟩ | ⟨name, rfl, rfl⟩ |
    ⟨word, piece, d, d', rfl, hdraft, -, hadd, rfl⟩
  · refine ⟨earlier ++ (r.draft.map Draft.heading).toList, ?_, rfl⟩
    rw [List.map_append, hnames, names_of_complete hcomplete]
  · exact ⟨earlier, hnames, List.append_nil _⟩
  · refine ⟨earlier, hnames, ?_⟩
    simp [hdraft, Draft.heading_of_addPiece hadd, headings, Clause.heading?]

/-- If the name of the draft is taken, its definition is the second one. -/
theorem Recalls.getElem?_definitionsOf (h : r.Recalls before) {d : Draft} (hd : d ∈ r.draft)
    (htaken : d.item.name ∈ r.grammar.names) (after : List (Position × Clause)) :
    (definitionsOf d.item.name (before ++ after))[1]? = some d.position := by
  obtain ⟨earlier, hnames, hheadings⟩ := h
  have hone : (earlier.filter fun heading => heading.2 == d.item.name).length = 1 := by
    have hcount := List.count_eq_one_of_mem r.grammar.nodup_names htaken
    rw [← Grammar.names, ← hnames, List.count_eq_countP, List.countP_map,
      List.countP_eq_length_filter] at hcount
    exact hcount
  have hown : [d.heading].filter (fun heading => heading.2 == d.item.name) = [d.heading] := by
    simp [Draft.heading]
  rw [definitionsOf, headings_append, hheadings, Option.mem_def.1 hd]
  simp only [Option.map_some, Option.toList_some, List.filter_append, List.map_append, hown]
  rw [List.append_assoc, List.getElem?_append_right (by simp [hone])]
  simp [hone, Draft.heading]

end Reader

/-- Of the definitions of a name among the clauses, the second one starts at the position, and the
error is that of a name that is taken. -/
def RejectsSecond (cs : List (Position × Clause)) (p : Position) (e : GrammarError) : Prop :=
  ∃ name, e = .duplicateItem name ∧ (definitionsOf name cs)[1]? = some p

/-- Clauses are read with loose parts as the reader reads them, and a rejected item is the second
one of its name among the clauses. -/
theorem mirrors_readAll {r : Reader} (h : r.Orderly) {before : List (Position × Clause)}
    (hrecalls : r.Recalls before) (cs : List (Position × Clause)) (stop : Position) :
    Mirrors (RejectsSecond (before ++ cs)) id (r.readAll cs >>= fun r => r.finish stop)
      (r.loose.readAll cs >>= fun s => s.finish stop) := by
  induction cs generalizing r before with
  | nil =>
    exact h.mirrors_finish
      (fun d hd htaken => ⟨_, rfl, hrecalls.getElem?_definitionsOf hd htaken []⟩) stop
  | cons c cs ih =>
    obtain ⟨p, c⟩ := c
    simp only [Reader.readAll, LooseReader.readAll, bind_assoc]
    refine (h.mirrors_step (fun d hd htaken =>
      ⟨_, rfl, hrecalls.getElem?_definitionsOf hd htaken _⟩) p c).bind fun r' hstep => ?_
    have hrest := ih (h.step hstep) (hrecalls.step hstep)
    rwa [List.append_assoc] at hrest

/-- A text is read with loose parts as it is otherwise. -/
theorem mirrors_read [BracketSet] (text : String) :
    Mirrors (fun p e => ∃ ws stop, words text = .ok (ws, stop) ∧ RejectsSecond (clauses ws) p e) id
      (Grammar.read text) (LooseReader.read text) := by
  unfold Grammar.read LooseReader.read
  cases hwords : words text with
  | error e => exact .refused _
  | ok found =>
    obtain ⟨ws, stop⟩ := found
    have hread := mirrors_readAll Reader.orderly_empty Reader.recalls_empty (clauses ws) stop
    exact hread.imp fun p e hrejects => ⟨ws, stop, rfl, hrejects⟩

/-- **Safe reading.** What stands between the marks of a quotation can always be cut out. With the
parts of a draft side by side a text is read as it is otherwise: a rule never comes without an item,
and an item that the grammar rejects is the second one of its name, which is reported where its
definition starts. -/
theorem read_without_faults [BracketSet] (text : String) :
    (∀ x ∈ (scan settings text).lexemes, ∀ mark, x.kind = .quotation mark →
      slice? (String.ofList x.text) 1 ((String.ofList x.text).utf8ByteSize - 1) =
        some x.text.tail.dropLast) ∧
    match LooseReader.read text with
    | .ok g => Grammar.read text = .ok g
    | .error (.refused e) => Grammar.read text = .error e
    | .error (.rejected p e) => ∃ name ws stop, e = .duplicateItem name ∧
        Grammar.read text = .error ⟨p, .duplicateItem name⟩ ∧ words text = .ok (ws, stop) ∧
        (definitionsOf name (clauses ws))[1]? = some p
    | .error (.unowned _) => False := by
  refine ⟨fun x hx mark hkind => ?_, ?_⟩
  · obtain ⟨hmark, raw, htext⟩ := exists_raw_of_mem_scanFrom _ _ _ hx hkind
    rw [htext, slice?_quotation hmark, List.tail_cons, List.dropLast_concat]
  · have hmirrors := mirrors_read text
    generalize LooseReader.read text = loose at hmirrors ⊢
    generalize Grammar.read text = tight at hmirrors ⊢
    cases hmirrors with
    | ok g => rfl
    | refused e => rfl
    | rejected hrejects =>
      obtain ⟨ws, stop, hwords, name, rfl, hsecond⟩ := hrejects
      exact ⟨name, ws, stop, rfl, rfl, hwords, hsecond⟩

end Library

/-- A token with a name that is taken is reported where its keyword stands, behind a literal of two
bytes and a start that does not end the first definition. -/
theorem read_without_faults_twice :
    slice? "'é'" 1 3 = some ['é'] ∧
      Grammar.read "A: 'é' START A | 'a' TOKEN A: 'b'" =
        .error ⟨⟨1, 22⟩, .duplicateItem "A"⟩ ∧
      ∃ ws stop, words "A: 'é' START A | 'a' TOKEN A: 'b'" = .ok (ws, stop) ∧
        (definitionsOf "A" (clauses ws))[1]? = some ⟨1, 22⟩ := by
  have hread : LooseReader.read "A: 'é' START A | 'a' TOKEN A: 'b'" =
      .error (.rejected ⟨1, 22⟩ (.duplicateItem "A")) := by
    decide +kernel
  obtain ⟨hslices, houtcome⟩ := read_without_faults "A: 'é' START A | 'a' TOKEN A: 'b'"
  rw [hread] at houtcome
  obtain ⟨name, ws, stop, hname, herror, hwords, hsecond⟩ := houtcome
  cases hname
  have hslice := hslices ⟨.quotation '\'', ['\'', 'é', '\''], ⟨1, 4⟩, 3⟩ (by decide +kernel) _ rfl
  exact ⟨hslice, herror, ws, stop, hwords, hsecond⟩

end BranchLR.GrammarText
