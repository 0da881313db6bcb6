import BranchLR.Text.BracketPairs
import BranchLR.Proofs.Lexing.Positions
import Mathlib.Data.String.Basic

/-!
# Lexemes tile their text

A text is read lexeme by lexeme. Each reading starts at the byte where the one before ended, takes
at least one character, and keeps the position that counting gives. The reading ends at the end of
the text, or with a quotation that is never closed; such a quotation takes all that is left, so
nothing can follow its error.
-/

namespace BranchLR

/-! ### Offsets in bytes -/

theorem byteLength_eq_utf8Len (cs : List Char) : byteLength cs = String.utf8Len cs := by
  induction cs with
  | nil => rfl
  | cons c cs ih => rw [byteLength, ih, String.utf8Len_cons, Nat.add_comm]

theorem byteLength_cons_pos (c : Char) (cs : List Char) : 0 < byteLength (c :: cs) := by
  have hsize := c.utf8Size_pos
  rw [byteLength]
  omega

theorem byteLength_toList (text : String) : byteLength text.toList = text.utf8ByteSize := by
  rw [byteLength_eq_utf8Len, String.utf8Len_toList]

/-- The characters of a text between two byte offsets. -/
def charsBetween (text : String) (first last : Nat) : List Char :=
  (String.Pos.Raw.extract text ⟨first⟩ ⟨last⟩).toList

/-- Characters of a text are found again between the offsets where they stand. -/
theorem charsBetween_of_eq_append {text : String} {before cs after : List Char}
    (h : text.toList = before ++ cs ++ after) :
    charsBetween text (byteLength before) (byteLength before + byteLength cs) = cs := by
  have htext : text = String.ofList (before ++ cs ++ after) := by rw [← h, String.ofList_toList]
  rw [charsBetween, htext, byteLength_eq_utf8Len, byteLength_eq_utf8Len, String.extract_of_valid,
    String.toList_ofList]

theorem charsBetween_zero {text : String} {before after : List Char}
    (h : text.toList = before ++ after) : charsBetween text 0 (byteLength before) = before := by
  have htext : text.toList = [] ++ before ++ after := h
  have hbetween := charsBetween_of_eq_append htext
  rwa [byteLength, Nat.zero_add] at hbetween

theorem charsBetween_utf8ByteSize {text : String} {before after : List Char}
    (h : text.toList = before ++ after) :
    charsBetween text (byteLength before) text.utf8ByteSize = after := by
  have htext : text.toList = before ++ after ++ [] := by rw [h, List.append_nil]
  rw [← byteLength_toList, h, byteLength_append]
  exact charsBetween_of_eq_append htext

/-- The offset behind some of the first characters of a text is a boundary between characters. -/
theorem isValid_of_eq_append {text : String} {before after : List Char}
    (h : text.toList = before ++ after) :
    String.Pos.Raw.IsValid text ⟨byteLength before⟩ := by
  refine String.Pos.Raw.isValid_iff_exists_append.2
    ⟨String.ofList before, String.ofList after, ?_, ?_⟩
  · rw [← String.ofList_append, ← h, String.ofList_toList]
  · rw [String.rawEndPos_ofList, byteLength_eq_utf8Len]

/-! ### Quotations that are never closed -/

/-- No mark closes the quotation: wherever the mark occurs, the characters before it cannot be
divided so that each backslash has the character behind it, because the last one takes the mark. -/
def NeverCloses (mark : Char) (cs : List Char) : Prop :=
  ∀ before after, cs = before ++ mark :: after → ¬GrammarText.Paired before

theorem GrammarText.Quotable.paired {mark : Char} {raw : List Char} (h : Quotable mark raw) :
    Paired raw := by
  induction h with
  | nil => exact .nil
  | escape c _ ih => exact .escape c ih
  | plain hc _ _ ih => exact .plain hc ih

/-- A mark behind characters that leave no backslash alone closes the quotation, or an earlier one
does. -/
theorem GrammarText.Paired.splitQuotation_ne_none {mark : Char} (hmark : mark ≠ '\\')
    {before : List Char} (h : Paired before) (after : List Char) :
    splitQuotation mark (before ++ mark :: after) ≠ none := by
  induction h with
  | nil => simp [splitQuotation, hmark]
  | escape c _ ih => simpa [splitQuotation] using ih
  | @plain c _ hc _ ih =>
    by_cases hcloses : c = mark
    · subst hcloses
      simp [splitQuotation, hc]
    · simpa [splitQuotation, hc, hcloses] using ih

theorem splitQuotation_eq_none_iff {mark : Char} (hmark : mark ≠ '\\') {cs : List Char} :
    splitQuotation mark cs = none ↔ NeverCloses mark cs := by
  constructor
  · rintro hnone before after rfl hpaired
    exact hpaired.splitQuotation_ne_none hmark after hnone
  · intro hnever
    cases hsplit : splitQuotation mark cs with
    | none => rfl
    | some parts =>
      obtain ⟨raw, -, heq, hraw⟩ := (GrammarText.splitQuotation_eq_some_iff hmark).1 hsplit
      exact absurd hraw.paired (hnever raw parts.2 heq)

section Library

variable [BracketSet]

/-- Only a quotation has no end. -/
theorem LexicalSettings.neverCloses_of_split {s : LexicalSettings} {c : Char} {tail : List Char}
    (h : s.split c tail = none) : isQuote c = true ∧ NeverCloses c tail := by
  cases hquote : isQuote c with
  | false => cases (split_of_shape hquote rfl tail).symm.trans h
  | true =>
    simp only [split, hquote, if_true, Option.map_eq_none_iff] at h
    exact ⟨rfl, (splitQuotation_eq_none_iff (GrammarText.ne_backslash_of_isQuote hquote)).1 h⟩

/-! ### Reading lexeme by lexeme -/

/-- A reading on its way: the characters ahead, and the place where they start. -/
structure Reading where
  ahead : List Char
  position : Position
  offset : Nat

namespace Reading

variable {s : LexicalSettings} {r last last' : Reading}
  {results results' : List (Except LexicalError Lexeme)}

/-- The reading of a text before its first character. -/
def start (text : String) : Reading := ⟨text.toList, .start, 0⟩

/-- The reading behind the characters that have been read, with the rest ahead. -/
def behind (r : Reading) (read rest : List Char) : Reading :=
  ⟨rest, r.position.after read, r.offset + byteLength read⟩

/-- What is read next, and the reading behind it. A quotation that is not closed is an error, and
takes all that is ahead. -/
def next? (s : LexicalSettings) (r : Reading) : Option (Except LexicalError Lexeme × Reading) :=
  match r.ahead with
  | [] => none
  | c :: tail =>
    match s.split c tail with
    | none => some (.error (.unterminatedQuote r.position), r.behind (c :: tail) [])
    | some (kind, body, rest) =>
      some (.ok ⟨kind, c :: body, r.position, r.offset⟩, r.behind (c :: body) rest)

/-- The results are read one after another, and nothing can be read behind them. -/
inductive Yields (s : LexicalSettings) :
    Reading → List (Except LexicalError Lexeme) → Reading → Prop
  | done {r : Reading} (h : r.next? s = none) : Yields s r [] r
  | more {r r' last : Reading} {x : Except LexicalError Lexeme}
      {xs : List (Except LexicalError Lexeme)} (h : r.next? s = some (x, r'))
      (hrest : Yields s r' xs last) : Yields s r (x :: xs) last

theorem Yields.unique (h : Yields s r results last) (h' : Yields s r results' last') :
    results' = results ∧ last' = last := by
  induction h generalizing results' with
  | done hnext =>
    cases h' with
    | done => exact ⟨rfl, rfl⟩
    | more hnext' => cases hnext.symm.trans hnext'
  | more hnext _ ih =>
    cases h' with
    | done hnext' => cases hnext'.symm.trans hnext
    | more hnext' hrest' =>
      cases hnext.symm.trans hnext'
      obtain ⟨rfl, rfl⟩ := ih hrest'
      exact ⟨rfl, rfl⟩

/-- The lexemes of a text are read one after another, then its error if it has one, and then
nothing. -/
theorem yields_scanFrom (s : LexicalSettings) (p : Position) (offset : Nat) (cs : List Char) :
    Yields s ⟨cs, p, offset⟩
      ((scanFrom s p offset cs).lexemes.map .ok ++
        (scanFrom s p offset cs).error.toList.map .error)
      ⟨[], (scanFrom s p offset cs).stop, offset + byteLength cs⟩ := by
  induction cs using LexicalSettings.text_induction (s := s) generalizing p offset with
  | nil =>
    rw [scanFrom]
    exact .done rfl
  | unended c tail hsplit =>
    rw [scanFrom_cons_of_unterminated hsplit]
    refine .more ?_ (.done rfl)
    simp [next?, behind, hsplit]
  | lexeme c tail kind body rest hsplit ih =>
    have hoffset : offset + byteLength (c :: body) + byteLength rest =
        offset + byteLength (c :: tail) := by
      rw [← LexicalSettings.split_append hsplit, ← List.cons_append, byteLength_append,
        Nat.add_assoc]
    have hrest := ih (p.after (c :: body)) (offset + byteLength (c :: body))
    rw [hoffset] at hrest
    rw [scanFrom_cons hsplit]
    exact .more (by simp [next?, behind, hsplit]) hrest

end Reading

/-! ### Tiling -/

/-- Lexemes stand side by side in a text, from one byte offset to another. Each of them takes at
least one byte, ends at a boundary between characters, holds the characters of its span, and has the
position that is counted over the characters before it. -/
inductive Tiles (text : String) : Nat → List Lexeme → Nat → Prop
  | nil (offset : Nat) : Tiles text offset [] offset
  | cons {offset last : Nat} {x : Lexeme} {xs : List Lexeme} (hstart : x.start = offset)
      (hnonempty : x.start < x.stop) (hboundary : String.Pos.Raw.IsValid text ⟨x.stop⟩)
      (htext : charsBetween text x.start x.stop = x.text)
      (hposition : x.position = .counted (charsBetween text 0 x.start))
      (hrest : Tiles text x.stop xs last) : Tiles text offset (x :: xs) last

/-- What lexemes leave of a text behind a byte offset: nothing, or a quotation that is never closed
and is reported where it starts. -/
inductive Leaves (text : String) (last : Nat) : Option LexicalError → Prop
  | nothing (hlast : last = text.utf8ByteSize) : Leaves text last none
  | quotation {mark : Char} {cs : List Char}
      (hrest : charsBetween text last text.utf8ByteSize = mark :: cs) (hmark : isQuote mark = true)
      (hnever : NeverCloses mark cs) :
      Leaves text last (some (.unterminatedQuote (.counted (charsBetween text 0 last))))

/-- The lexemes behind some of the first characters of a text tile what follows, except for what
they leave. -/
theorem exists_tiles_scanFrom (s : LexicalSettings) {text : String} {before cs : List Char}
    (h : text.toList = before ++ cs) :
    ∃ last, Tiles text (byteLength before)
        (scanFrom s (.counted before) (byteLength before) cs).lexemes last ∧
      Leaves text last (scanFrom s (.counted before) (byteLength before) cs).error := by
  induction cs using LexicalSettings.text_induction (s := s) generalizing before with
  | nil =>
    have hsize : byteLength before = text.utf8ByteSize := by
      rw [← byteLength_toList, h, List.append_nil]
    rw [scanFrom]
    exact ⟨_, .nil _, .nothing hsize⟩
  | unended c tail hsplit =>
    obtain ⟨hquote, hnever⟩ := LexicalSettings.neverCloses_of_split hsplit
    have hleaves := Leaves.quotation (charsBetween_utf8ByteSize h) hquote hnever
    rw [charsBetween_zero h] at hleaves
    rw [scanFrom_cons_of_unterminated hsplit]
    exact ⟨_, .nil _, hleaves⟩
  | lexeme c tail kind body rest hsplit ih =>
    have htext : text.toList = before ++ (c :: body) ++ rest := by
      rw [h, ← LexicalSettings.split_append hsplit, List.append_assoc, List.cons_append]
    obtain ⟨last, htiles, hleaves⟩ := ih htext
    rw [scanFrom_cons hsplit, Position.after_counted, ← byteLength_append]
    refine ⟨last, ?_, hleaves⟩
    have hstop : Lexeme.stop ⟨kind, c :: body, .counted before, byteLength before⟩ =
        byteLength (before ++ c :: body) := (byteLength_append _ _).symm
    refine .cons rfl ?_ ?_ ?_ ?_ ?_
    · exact Nat.lt_add_of_pos_right (byteLength_cons_pos c body)
    · rw [hstop]
      exact isValid_of_eq_append htext
    · exact charsBetween_of_eq_append htext
    · rw [charsBetween_zero h]
    · rw [hstop]
      exact htiles

/-- The position behind the last character that is read is that of the end of the text. -/
theorem stop_scanFrom (s : LexicalSettings) (p : Position) (offset : Nat) (cs : List Char) :
    (scanFrom s p offset cs).stop = p.after cs := by
  induction cs using LexicalSettings.text_induction (s := s) generalizing p offset with
  | nil =>
    rw [scanFrom]
    rfl
  | unended c tail hsplit => rw [scanFrom_cons_of_unterminated hsplit]
  | lexeme c tail kind body rest hsplit ih =>
    rw [scanFrom_cons hsplit, ← LexicalSettings.split_append hsplit, ← List.cons_append,
      Position.after_append]
    exact ih _ _

/-- **Lexemes tile their text.** Whatever characters are special, reading a text to its end gives
its lexemes, then at most one error, and nothing behind the error. The lexemes stand side by side
from the first byte on, and leave nothing, or a quotation that is never closed. All positions, and
that of the end, are those that counting gives. -/
theorem scan_tiles (s : LexicalSettings) (text : String) :
    (∀ results last, (Reading.start text).Yields s results last ↔
      results = (scan s text).lexemes.map .ok ++ (scan s text).error.toList.map .error ∧
        last = ⟨[], (scan s text).stop, text.utf8ByteSize⟩) ∧
    (∃ last, Tiles text 0 (scan s text).lexemes last ∧ Leaves text last (scan s text).error) ∧
    (scan s text).stop = .counted text.toList ∧ (scan s "").lexemes = [] := by
  refine ⟨?_, ?_, ?_, ?_⟩
  · intro results last
    have hyields := Reading.yields_scanFrom s .start 0 text.toList
    rw [byteLength_toList, Nat.zero_add] at hyields
    constructor
    · intro h
      exact hyields.unique h
    · rintro ⟨rfl, rfl⟩
      exact hyields
  · have htext : text.toList = [] ++ text.toList := rfl
    exact exists_tiles_scanFrom s htext
  · rw [scan, stop_scanFrom, Position.start_after]
  · rw [scan, String.toList_empty, scanFrom]

end Library

example : scan {} "é\n'a\\'" = ⟨[⟨.name, ['é'], ⟨1, 1⟩, 0⟩, ⟨.blank, ['\n'], ⟨1, 2⟩, 2⟩],
    some (.unterminatedQuote ⟨2, 1⟩), ⟨2, 5⟩⟩ := by
  decide +kernel

end BranchLR
