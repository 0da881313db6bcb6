import BranchLR.Proofs.GrammarText.Quotations

/-!
# Where lexemes end

A quotation ends with its mark. Any other lexeme goes on as long as its shape lets it, so where it
ends depends on nothing but the next character: before every rest that starts with a character
which does not continue it, the same lexeme is split off. White space continues no lexeme but white
space and comments.
-/

namespace BranchLR

/-- A number in ascending ranges lies in one of them. -/
theorem exists_of_inRanges {ranges : List (Nat × Nat)} {n : Nat} (h : inRanges ranges n = true) :
    ∃ range ∈ ranges, range.1 ≤ n ∧ n ≤ range.2 := by
  induction ranges with
  | nil => cases h
  | cons range ranges ih =>
    simp only [inRanges, Bool.and_eq_true, Bool.or_eq_true, decide_eq_true_eq] at h
    obtain ⟨hfirst, hlast | hrest⟩ := h
    · exact ⟨range, List.mem_cons_self, hfirst, hlast⟩
    · obtain ⟨other, hother, hbounds⟩ := ih hrest
      exact ⟨other, List.mem_cons_of_mem _ hother, hbounds⟩

/-- White space is neither a letter nor a number. -/
theorem not_letter_of_isBlank {c : Char} (h : isBlank c = true) :
    isAlphabetic c = false ∧ isNumeric c = false ∧ c ≠ '_' := by
  have htable : ∀ range ∈ blankRanges, ∀ n ∈ List.range' range.1 (range.2 - range.1 + 1),
      inRanges alphabeticRanges n = false ∧ inRanges numericRanges n = false ∧ n ≠ '_'.toNat := by
    decide +kernel
  obtain ⟨range, hrange, hfirst, hlast⟩ := exists_of_inRanges h
  obtain ⟨halphabetic, hnumeric, hne⟩ := htable range hrange c.toNat
    (List.mem_range'_1.2 ⟨hfirst, by omega⟩)
  exact ⟨halphabetic, hnumeric, fun heq => hne (congrArg Char.toNat heq)⟩

theorem isWordPart_of_isBlank {c : Char} (h : isBlank c = true) : isWordPart c = false := by
  obtain ⟨halphabetic, hnumeric, hunderscore⟩ := not_letter_of_isBlank h
  simp [isWordPart, halphabetic, hnumeric, hunderscore]

theorem isQuote_of_isBlank {c : Char} (h : isBlank c = true) : isQuote c = false := by
  rw [Bool.eq_false_iff]
  intro hquote
  have hmark : c = '\'' ∨ c = '"' := by simpa [isQuote] using hquote
  rcases hmark with rfl | rfl
  · exact absurd h (by decide)
  · exact absurd h (by decide)

variable [BracketSet]

theorem scanFrom_cons {s : LexicalSettings} {c : Char} {tail body rest : List Char}
    {kind : LexemeKind} (h : s.split c tail = some (kind, body, rest)) (p : Position)
    (offset : Nat) :
    scanFrom s p offset (c :: tail) =
      let scan := scanFrom s (p.after (c :: body)) (offset + byteLength (c :: body)) rest
      ⟨⟨kind, c :: body, p, offset⟩ :: scan.lexemes, scan.error, scan.stop⟩ := by
  rw [scanFrom]
  split
  next hnone => cases h.symm.trans hnone
  next hsome =>
    cases h.symm.trans hsome
    rfl

theorem scanFrom_cons_of_unterminated {s : LexicalSettings} {c : Char} {tail : List Char}
    (h : s.split c tail = none) (p : Position) (offset : Nat) :
    scanFrom s p offset (c :: tail) =
      ⟨[], some (.unterminatedQuote p), p.after (c :: tail)⟩ := by
  rw [scanFrom]
  split
  next => rfl
  next hsome => cases h.symm.trans hsome

namespace LexicalSettings

variable {s : LexicalSettings} {c d : Char} {cs tail body rest : List Char} {kind : LexemeKind}

/-- A lexeme takes at least its first character. -/
theorem length_lt_of_split (h : s.split c cs = some (kind, body, rest)) :
    rest.length < (c :: cs).length := by
  rw [← split_append h]
  simp only [List.length_cons, List.length_append]
  omega

/-- A text is empty, or it starts with a lexeme and goes on as a text, or it starts with a quotation
that does not end. -/
theorem text_induction {P : List Char → Prop} (nil : P [])
    (unended : ∀ c tail, s.split c tail = none → P (c :: tail))
    (lexeme : ∀ c tail kind body rest, s.split c tail = some (kind, body, rest) → P rest →
      P (c :: tail))
    (cs : List Char) : P cs := by
  cases cs with
  | nil => exact nil
  | cons c tail =>
    cases hsplit : s.split c tail with
    | none => exact unended c tail hsplit
    | some parts =>
      obtain ⟨kind, body, rest⟩ := parts
      exact lexeme c tail kind body rest hsplit (text_induction nil unended lexeme rest)
termination_by cs.length
decreasing_by exact length_lt_of_split hsplit

/-- A lexeme other than a quotation goes on as long as its shape lets it. -/
theorem split_of_shape (hquote : isQuote c = false) {shape : LexemeShape}
    (hshape : s.shape c = shape) (cs : List Char) :
    s.split c cs = some (shape.kind, cs.takeWhile (s.continues shape),
      cs.dropWhile (s.continues shape)) := by
  simp [split, hquote, hshape]

/-- A lexeme other than a quotation has the class of its shape. -/
theorem kind_eq_of_split (h : s.split c cs = some (kind, body, rest))
    (hkind : ∀ mark, kind ≠ .quotation mark) : kind = (s.shape c).kind := by
  cases hquote : isQuote c with
  | true =>
    simp only [split, hquote, if_true] at h
    obtain ⟨_, _, heq⟩ := Option.map_eq_some_iff.1 h
    cases heq
    exact absurd rfl (hkind c)
  | false =>
    rw [split_of_shape hquote rfl] at h
    cases h
    rfl

/-- Characters that go on with a lexeme belong to it, up to one that does not. -/
theorem split_of_continues (hquote : isQuote c = false) {shape : LexemeShape}
    (hshape : s.shape c = shape) (hbody : ∀ d ∈ body, s.continues shape d = true)
    (hrest : ∀ d ∈ rest.head?, s.continues shape d = false) :
    s.split c (body ++ rest) = some (shape.kind, body, rest) := by
  rw [split_of_shape hquote hshape, List.takeWhile_append_of_pos hbody,
    List.dropWhile_append_of_pos hbody]
  cases rest with
  | nil => simp
  | cons d rest =>
    have hd : s.continues shape d = false := hrest d rfl
    simp [hd]

/-- A lexeme that starts with the character is not continued by the rest. A quotation never is. -/
def EndsBefore (s : LexicalSettings) (c : Char) (rest : List Char) : Prop :=
  isQuote c = false → ∀ d ∈ rest.head?, s.continues (s.shape c) d = false

/-- The rest of a text does not continue the lexeme before it. -/
theorem endsBefore_of_split (h : s.split c tail = some (kind, body, rest)) :
    s.EndsBefore c rest := by
  intro hquote d hd
  rw [split_of_shape hquote rfl] at h
  cases h
  have hhead := List.head?_dropWhile_not (s.continues (s.shape c)) tail
  rw [Option.mem_def.1 hd] at hhead
  exact hhead

/-- The same lexeme is split off before every rest that does not continue it. -/
theorem split_append_of_endsBefore (h : s.split c tail = some (kind, body, rest))
    {rest' : List Char} (hends : s.EndsBefore c rest') :
    s.split c (body ++ rest') = some (kind, body, rest') := by
  cases hquote : isQuote c with
  | true =>
    have hmark : c ≠ '\\' := GrammarText.ne_backslash_of_isQuote hquote
    simp only [split, hquote, if_true] at h ⊢
    obtain ⟨⟨b, r⟩, hsplit, heq⟩ := Option.map_eq_some_iff.1 h
    cases heq
    obtain ⟨raw, rfl, -, hraw⟩ := (GrammarText.splitQuotation_eq_some_iff hmark).1 hsplit
    have hsplit' : splitQuotation c (raw ++ [c] ++ rest') = some (raw ++ [c], rest') :=
      (GrammarText.splitQuotation_eq_some_iff hmark).2 ⟨raw, rfl, by simp, hraw⟩
    rw [hsplit']
    rfl
  | false =>
    rw [split_of_shape hquote rfl] at h
    cases h
    exact split_of_continues hquote rfl (List.all_eq_true.1 List.all_takeWhile) (hends hquote)

/-! ### White space -/

/-- White space continues no lexeme but white space and comments. -/
theorem continues_of_isBlank {shape : LexemeShape} (hblank : shape ≠ .blank)
    (hcomment : shape ≠ .comment) (hd : isBlank d = true) : s.continues shape d = false := by
  cases shape with
  | comment => exact absurd rfl hcomment
  | blank => exact absurd rfl hblank
  | separator | bracket => rfl
  | number | name => exact isWordPart_of_isBlank hd
  | operator => simp [continues, hd]

/-- A lexeme other than white space and comments ends before white space. -/
theorem endsBefore_of_isBlank (h : s.split c tail = some (kind, body, rest))
    (hblank : kind ≠ .blank) (hcomment : kind ≠ .comment) (hd : isBlank d = true)
    (cs : List Char) : s.EndsBefore c (d :: cs) := by
  intro hquote e he
  obtain rfl : d = e := by simpa using he
  rw [split_of_shape hquote rfl] at h
  cases h
  refine continues_of_isBlank ?_ ?_ hd
  · intro hshape
    exact hblank (by rw [hshape]; rfl)
  · intro hshape
    exact hcomment (by rw [hshape]; rfl)

/-- White space behind a text does not change where a lexeme in it ends. -/
theorem endsBefore_append_of_isBlank (h : s.split c tail = some (kind, body, rest))
    (hblank : kind ≠ .blank) (hcomment : kind ≠ .comment) (hd : isBlank d = true)
    (cs : List Char) : s.EndsBefore c (rest ++ d :: cs) := by
  cases rest with
  | nil => exact endsBefore_of_isBlank h hblank hcomment hd cs
  | cons e rest =>
    intro hquote f hf
    exact endsBefore_of_split h hquote f hf

/-- Only the character that opens comments starts a comment. -/
theorem comment_eq_of_split (h : s.split c cs = some (.comment, body, rest)) :
    s.comment = some c := by
  have hkind : LexemeKind.comment = (s.shape c).kind := kind_eq_of_split h (by simp)
  unfold shape at hkind
  repeat' split at hkind
  all_goals first | assumption | cases hkind

/-- Only white space starts a lexeme of white space. -/
theorem isBlank_of_split (h : s.split c cs = some (.blank, body, rest)) : isBlank c = true := by
  have hkind : LexemeKind.blank = (s.shape c).kind := kind_eq_of_split h (by simp)
  unfold shape at hkind
  repeat' split at hkind
  all_goals first | assumption | cases hkind

/-- No white space is among the special characters of the settings. -/
def SparesBlanks (s : LexicalSettings) : Prop :=
  ∀ c, isBlank c = true → s.comment ≠ some c ∧ c ∉ s.separators

/-- White space that is not special starts a lexeme of white space. -/
theorem SparesBlanks.split_of_isBlank (hs : s.SparesBlanks) (h : isBlank c = true)
    (cs : List Char) :
    s.split c cs = some (.blank, cs.takeWhile isBlank, cs.dropWhile isBlank) := by
  obtain ⟨halphabetic, hnumeric, hunderscore⟩ := not_letter_of_isBlank h
  obtain ⟨hcomment, hseparators⟩ := hs c h
  have hshape : s.shape c = .blank := by
    simp [shape, hcomment, hseparators, halphabetic, hnumeric, hunderscore, h]
  exact split_of_shape (isQuote_of_isBlank h) hshape cs

/-- A text is empty, or it starts with white space or another lexeme and goes on as a text, or it
starts with a quotation that does not end. White space is taken character by character, so that it
does not matter how much of it there is. -/
theorem SparesBlanks.text_induction (hs : s.SparesBlanks) {P : List Char → Prop} (nil : P [])
    (blank : ∀ c cs, isBlank c = true → P cs → P (c :: cs))
    (unended : ∀ c tail, s.split c tail = none → P (c :: tail))
    (lexeme : ∀ c tail kind body rest, kind ≠ .blank → s.split c tail = some (kind, body, rest) →
      P rest → P (c :: tail))
    (cs : List Char) : P cs := by
  cases cs with
  | nil => exact nil
  | cons c tail =>
    by_cases hc : isBlank c = true
    · exact blank c tail hc (hs.text_induction nil blank unended lexeme tail)
    · cases hsplit : s.split c tail with
      | none => exact unended c tail hsplit
      | some parts =>
        obtain ⟨kind, body, rest⟩ := parts
        have hkind : kind ≠ .blank := by
          rintro rfl
          exact hc (isBlank_of_split hsplit)
        exact lexeme c tail kind body rest hkind hsplit
          (hs.text_induction nil blank unended lexeme rest)
termination_by cs.length
decreasing_by
  · exact Nat.lt_succ_self tail.length
  · exact length_lt_of_split hsplit

end LexicalSettings

end BranchLR
