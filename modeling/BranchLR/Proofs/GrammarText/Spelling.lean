import BranchLR.Proofs.Lexing.Splitting

/-!
# The words that texts spell

Where a word stands in a text matters to errors only, so the words of a text are a function of its
characters. This module gives that function by its lexical rules: white space is passed over, a
delimiter and a quotation are words, and a name is one, together with a colon that comes next.
-/

namespace BranchLR

theorem inRanges_cons_of_le {first last n : Nat} {ranges : List (Nat × Nat)} (hfirst : first ≤ n)
    (h : n ≤ last ∨ inRanges ranges n = true) : inRanges ((first, last) :: ranges) n = true := by
  simpa [inRanges, hfirst] using h

namespace GrammarText

theorem sparesBlanks_settings : settings.SparesBlanks := by
  intro c hc
  have hspecial : '#' ≠ c ∧ c ≠ ':' ∧ c ≠ '|' := by
    refine ⟨?_, ?_, ?_⟩ <;> rintro rfl <;> exact absurd hc (by decide)
  simp [settings, hspecial]

/-- The characters of names are letters, numbers and underscores. -/
theorem isWordPart_of_isName {text : List Char} (h : isName text = true) :
    ∀ c ∈ text, isWordPart c = true := by
  intro c hc
  have hchar : (65 ≤ c.toNat ∧ c.toNat ≤ 90 ∨ 97 ≤ c.toNat ∧ c.toNat ≤ 122) ∨
      (48 ≤ c.toNat ∧ c.toNat ≤ 57) ∨ c = '_' := by
    have hcodes : (decide (65 ≤ c.val ∧ c.val ≤ 90) ||
        (decide (97 ≤ c.val) && decide (c.val ≤ 122)) ||
        (decide (48 ≤ c.val) && decide (c.val ≤ 57)) || c == '_') = true :=
      List.all_eq_true.1 h c hc
    simpa [UInt32.le_iff_toNat_le, or_assoc] using hcodes
  have halphabetic : ∀ n, 65 ≤ n ∧ n ≤ 90 ∨ 97 ≤ n ∧ n ≤ 122 →
      inRanges alphabeticRanges n = true := by
    rintro n (⟨hfirst, hlast⟩ | ⟨hfirst, hlast⟩)
    · exact inRanges_cons_of_le hfirst (.inl hlast)
    · exact inRanges_cons_of_le (by omega) (.inr (inRanges_cons_of_le hfirst (.inl hlast)))
  rcases hchar with hletter | ⟨hfirst, hlast⟩ | rfl
  · simp [isWordPart, isAlphabetic, halphabetic c.toNat hletter]
  · have hnumeric : isNumeric c = true := inRanges_cons_of_le hfirst (.inl hlast)
    simp [isWordPart, hnumeric]
  · rfl

/-- A colon is the next character that is not white space. -/
def colonAhead (cs : List Char) : Bool := (cs.dropWhile isBlank).head? == some ':'

theorem colonAhead_cons_of_isBlank {c : Char} (h : isBlank c = true) (cs : List Char) :
    colonAhead (c :: cs) = colonAhead cs := by
  simp [colonAhead, h]

theorem colonAhead_cons_of_not_isBlank {c : Char} (h : isBlank c = false) (cs : List Char) :
    colonAhead (c :: cs) = (c == ':') := by
  simp [colonAhead, h]

theorem colonAhead_dropWhile (cs : List Char) :
    colonAhead (cs.dropWhile isBlank) = colonAhead cs := by
  induction cs with
  | nil => rfl
  | cons c cs ih =>
    cases hblank : isBlank c with
    | false => simp [hblank]
    | true => simpa [hblank, colonAhead_cons_of_isBlank] using ih

/-- The words that a lexeme puts before those of the lexemes after it. -/
def addWord (kind : LexemeKind) (text : List Char) (colon : Bool) (ws : List Word) : List Word :=
  match kind with
  | .blank => ws
  | .comment => ws
  | .quotation mark => .literal mark (String.ofList text.tail.dropLast) :: ws
  | .bracket | .operator =>
    match Delimiter.ofChars? text with
    | some d => .delimiter d :: ws
    | none => .invalid (String.ofList text) :: ws
  | .number | .name =>
    if !isName text then .invalid (String.ofList text) :: ws
    else if colon then .itemName (String.ofList text) :: ws.tail
    else .ofSpelling (String.ofList text) :: ws

theorem map_snd_wordsOf_cons (x : Lexeme) (xs : List Lexeme) :
    (wordsOf (x :: xs)).map Prod.snd =
      addWord x.kind x.text (colonFollows xs) ((wordsOf xs).map Prod.snd) := by
  obtain ⟨kind, text, p, offset⟩ := x
  rw [wordsOf]
  cases kind with
  | blank => rfl
  | comment => rfl
  | quotation mark => rfl
  | bracket | operator =>
    simp only [addWord]
    cases Delimiter.ofChars? text <;> rfl
  | number | name =>
    simp only [addWord]
    cases isName text <;> cases colonFollows xs <;> simp

theorem addWord_name {kind : LexemeKind} (hkind : kind = .number ∨ kind = .name) {text : List Char}
    (h : isName text = true) (colon : Bool) (ws : List Word) :
    addWord kind text colon ws = if colon then .itemName (String.ofList text) :: ws.tail
      else .ofSpelling (String.ofList text) :: ws := by
  rcases hkind with rfl | rfl
  · simp [addWord, h]
  · simp [addWord, h]

/-- What the words of a text are like. -/
def Word.Spelled : Word → Prop
  | .name s => isName s.toList = true ∧ s ≠ "" ∧ ofSpelling s = .name s
  | .itemName s => isName s.toList = true ∧ s ≠ ""
  | .literal mark raw => isQuote mark = true ∧ Quotable mark raw.toList
  | _ => True

theorem Word.spelled_ofSpelling {s : String} (h : isName s.toList = true) (hne : s ≠ "") :
    (Word.ofSpelling s).Spelled := by
  unfold Word.ofSpelling
  split
  · trivial
  · trivial
  · trivial
  next => exact ⟨h, hne, by simp_all [Word.ofSpelling]⟩

variable [BracketSet]

/-- White space starts a lexeme of white space. -/
theorem split_of_isBlank {c : Char} (h : isBlank c = true) (cs : List Char) :
    settings.split c cs = some (.blank, cs.takeWhile isBlank, cs.dropWhile isBlank) :=
  sparesBlanks_settings.split_of_isBlank h cs

/-- A delimiter is a lexeme of its own. -/
theorem split_of_delimiter {c : Char} {shape : LexemeShape}
    (halone : shape = .bracket ∨ shape = .separator) (hquote : isQuote c = false)
    (hshape : settings.shape c = shape) (cs : List Char) :
    settings.split c cs = some (shape.kind, [], cs) := by
  rw [LexicalSettings.split_of_shape hquote hshape]
  rcases halone with rfl | rfl
  · cases cs <;> rfl
  · cases cs <;> rfl

theorem split_colon (cs : List Char) : settings.split ':' cs = some (.operator, [], cs) :=
  split_of_delimiter (.inr rfl) (by decide) rfl cs

/-- A bracket of ASCII stands on its own. -/
theorem shape_of_ascii {c : Char} (h : c ∈ asciiBrackets) : settings.shape c = .bracket := by
  have hother : settings.comment ≠ some c ∧ c ∉ settings.separators ∧ isNumeric c = false ∧
      (isAlphabetic c || c == '_') = false ∧ isBlank c = false := by
    simp only [asciiBrackets, List.mem_cons, List.not_mem_nil, or_false] at h
    rcases h with rfl | rfl | rfl | rfl | rfl | rfl <;> decide
  obtain ⟨hcomment, hseparators, hnumeric, hletter, hblank⟩ := hother
  simp [LexicalSettings.shape, hcomment, hseparators, hnumeric, hletter, hblank,
    BracketSet.isBracket_of_ascii c h]

theorem colonFollows_scanFrom_of_not_isBlank {c : Char} (h : isBlank c = false) (p : Position)
    (offset : Nat) (cs : List Char) :
    colonFollows (scanFrom settings p offset (c :: cs)).lexemes = (c == ':') := by
  by_cases hcolon : c = ':'
  · subst hcolon
    rw [scanFrom_cons (split_colon cs)]
    rfl
  · rw [beq_false_of_ne hcolon]
    cases hsplit : settings.split c cs with
    | none =>
      rw [scanFrom_cons_of_unterminated hsplit]
      rfl
    | some parts =>
      obtain ⟨kind, body, rest⟩ := parts
      have hkind : kind ≠ .blank := by
        rintro rfl
        exact absurd (LexicalSettings.isBlank_of_split hsplit) (by simp [h])
      rw [scanFrom_cons hsplit]
      simp [colonFollows, isColon, hkind, hcolon]

/-- The lexemes of a text show whether a colon is ahead. -/
theorem colonFollows_scanFrom (p : Position) (offset : Nat) (cs : List Char) :
    colonFollows (scanFrom settings p offset cs).lexemes = colonAhead cs := by
  cases cs with
  | nil =>
    rw [scanFrom]
    rfl
  | cons c cs =>
    cases hblank : isBlank c with
    | false =>
      rw [colonFollows_scanFrom_of_not_isBlank hblank, colonAhead_cons_of_not_isBlank hblank]
    | true =>
      rw [scanFrom_cons (split_of_isBlank hblank cs), colonAhead_cons_of_isBlank hblank,
        ← colonAhead_dropWhile, ← colonFollows_scanFrom _ _ (cs.dropWhile isBlank)]
      rfl
termination_by cs.length
decreasing_by exact LexicalSettings.length_lt_of_split (split_of_isBlank hblank cs)

/-- The words of a text without their places, if it can be read to its end. -/
def spoken (cs : List Char) : Option (List Word) :=
  match words (String.ofList cs) with
  | .error _ => none
  | .ok (ws, _) => some (ws.map Prod.snd)

/-- The words of a text that starts at any place. -/
def spokenFrom (p : Position) (offset : Nat) (cs : List Char) : Option (List Word) :=
  match (scanFrom settings p offset cs).error with
  | some _ => none
  | none => some ((wordsOf (scanFrom settings p offset cs).lexemes).map Prod.snd)

theorem spokenFrom_cons {c : Char} {tail body rest : List Char} {kind : LexemeKind}
    (h : settings.split c tail = some (kind, body, rest)) (p : Position) (offset : Nat) :
    spokenFrom p offset (c :: tail) =
      (spokenFrom (p.after (c :: body)) (offset + byteLength (c :: body)) rest).map
        (addWord kind (c :: body) (colonAhead rest)) := by
  rw [spokenFrom, scanFrom_cons h]
  dsimp only
  rw [map_snd_wordsOf_cons, colonFollows_scanFrom, spokenFrom]
  split <;> simp_all

/-- The words of a text do not depend on where it starts. -/
theorem spokenFrom_eq (p q : Position) (m n : Nat) (cs : List Char) :
    spokenFrom p m cs = spokenFrom q n cs := by
  induction cs using LexicalSettings.text_induction (s := settings) generalizing p q m n with
  | nil => simp [spokenFrom, scanFrom]
  | unended c tail hsplit => simp [spokenFrom, scanFrom_cons_of_unterminated hsplit]
  | lexeme c tail kind body rest hsplit ih =>
    rw [spokenFrom_cons hsplit, spokenFrom_cons hsplit]
    exact congrArg _ (ih _ _ _ _)

theorem spoken_eq_spokenFrom (p : Position) (offset : Nat) (cs : List Char) :
    spoken cs = spokenFrom p offset cs := by
  rw [spokenFrom_eq p .start offset 0]
  unfold spoken words scan spokenFrom
  rw [String.toList_ofList]
  dsimp only
  split <;> split <;> simp_all

/-! ### The lexical rules -/

@[simp]
theorem spoken_nil : spoken [] = some [] := by
  rw [spoken_eq_spokenFrom .start 0]
  simp [spokenFrom, scanFrom, wordsOf]

theorem spoken_cons {c : Char} {tail body rest : List Char} {kind : LexemeKind}
    (h : settings.split c tail = some (kind, body, rest)) :
    spoken (c :: tail) = (spoken rest).map (addWord kind (c :: body) (colonAhead rest)) := by
  rw [spoken_eq_spokenFrom .start 0, spokenFrom_cons h, ← spoken_eq_spokenFrom]

theorem spoken_cons_of_unterminated {c : Char} {tail : List Char}
    (h : settings.split c tail = none) : spoken (c :: tail) = none := by
  rw [spoken_eq_spokenFrom .start 0]
  simp [spokenFrom, scanFrom_cons_of_unterminated h]

/-- White space is passed over. -/
theorem spoken_cons_of_isBlank {c : Char} (h : isBlank c = true) (cs : List Char) :
    spoken (c :: cs) = spoken cs := by
  have hrun : ∀ {c : Char} {cs : List Char}, isBlank c = true →
      spoken (c :: cs) = spoken (cs.dropWhile isBlank) := by
    intro c cs h
    rw [spoken_cons (split_of_isBlank h cs)]
    exact Option.map_id'
  rw [hrun h]
  cases cs with
  | nil => rfl
  | cons d cs =>
    cases hblank : isBlank d with
    | false => simp [hblank]
    | true => simp [hblank, hrun hblank]

/-- A delimiter is a word. -/
theorem spoken_delimiter (d : Delimiter) (cs : List Char) :
    spoken (d.char :: cs) = (spoken cs).map (.delimiter d :: ·) := by
  have hbracket : ∀ {c : Char}, isQuote c = false → settings.shape c = .bracket →
      spoken (c :: cs) = (spoken cs).map (addWord .bracket [c] (colonAhead cs)) :=
    fun hquote hshape => spoken_cons (split_of_delimiter (.inl rfl) hquote hshape cs)
  have hseparator : ∀ {c : Char}, isQuote c = false → settings.shape c = .separator →
      spoken (c :: cs) = (spoken cs).map (addWord .operator [c] (colonAhead cs)) :=
    fun hquote hshape => spoken_cons (split_of_delimiter (.inr rfl) hquote hshape cs)
  cases d with
  | colon => exact hseparator (by decide) rfl
  | bar => exact hseparator (by decide) rfl
  | _ => exact hbracket (by decide) (shape_of_ascii (by decide))

/-- A name goes on up to the first character that is no part of words. -/
theorem split_name {c : Char} {cs rest : List Char} (h : isName (c :: cs) = true)
    (hrest : ∀ d ∈ rest.head?, isWordPart d = false) :
    ∃ kind, (kind = .number ∨ kind = .name) ∧
      settings.split c (cs ++ rest) = some (kind, cs, rest) := by
  obtain ⟨hc, hcs⟩ := List.forall_mem_cons.1 (isWordPart_of_isName h)
  have hspecial : c ≠ '\'' ∧ c ≠ '"' ∧ '#' ≠ c ∧ c ≠ ':' ∧ c ≠ '|' := by
    refine ⟨?_, ?_, ?_, ?_, ?_⟩ <;> rintro rfl <;> exact absurd hc (by decide)
  have hquote : isQuote c = false := by simp [isQuote, hspecial]
  have hsplit : ∀ shape, settings.shape c = shape → settings.continues shape = isWordPart →
      settings.split c (cs ++ rest) = some (shape.kind, cs, rest) := by
    intro shape hshape hcontinues
    rw [← hcontinues] at hcs hrest
    exact LexicalSettings.split_of_continues hquote hshape hcs hrest
  cases hnumeric : isNumeric c with
  | true =>
    have hshape : settings.shape c = .number := by
      simp [LexicalSettings.shape, settings, hspecial, hnumeric]
    exact ⟨.number, .inl rfl, hsplit .number hshape rfl⟩
  | false =>
    have hletter : (isAlphabetic c || c == '_') = true := by simpa [isWordPart, hnumeric] using hc
    have hshape : settings.shape c = .name := by
      simp [LexicalSettings.shape, settings, hspecial, hnumeric, hletter]
    exact ⟨.name, .inr rfl, hsplit .name hshape rfl⟩

/-- A name declares an item if a colon is ahead, which belongs to it. -/
theorem spoken_name {text rest : List Char} (h : isName text = true) (hne : text ≠ [])
    (hrest : ∀ c ∈ rest.head?, isWordPart c = false) :
    spoken (text ++ rest) = (spoken rest).map fun ws =>
      if colonAhead rest then .itemName (String.ofList text) :: ws.tail
      else .ofSpelling (String.ofList text) :: ws := by
  obtain ⟨c, cs, rfl⟩ := List.exists_cons_of_ne_nil hne
  obtain ⟨kind, hkind, hsplit⟩ := split_name h hrest
  rw [List.cons_append, spoken_cons hsplit]
  exact congrArg (Option.map · (spoken rest)) (funext fun ws => addWord_name hkind h _ ws)

theorem spoken_itemName {name : String} (h : isName name.toList = true) (hne : name ≠ "")
    (rest : List Char) :
    spoken (name.toList ++ ':' :: rest) = (spoken rest).map (.itemName name :: ·) := by
  have hcolon : spoken (':' :: rest) = (spoken rest).map (.delimiter .colon :: ·) :=
    spoken_delimiter .colon rest
  have hends : ∀ c ∈ (':' :: rest).head?, isWordPart c = false := by
    rintro _ ⟨⟩
    rfl
  rw [spoken_name h (by simpa using hne) hends, hcolon, colonAhead_cons_of_not_isBlank (by decide)]
  simp [Function.comp_def]

theorem spoken_spelling {name : String} (h : isName name.toList = true) (hne : name ≠ "")
    {rest : List Char} (hrest : ∀ c ∈ rest.head?, isWordPart c = false)
    (hcolon : colonAhead rest = false) :
    spoken (name.toList ++ rest) = (spoken rest).map (.ofSpelling name :: ·) := by
  rw [spoken_name h (by simpa using hne) hrest, hcolon]
  simp

/-- A quotation is a word. -/
theorem spoken_quotation {mark : Char} (hmark : isQuote mark = true) {raw : List Char}
    (hraw : Quotable mark raw) (rest : List Char) :
    spoken (mark :: raw ++ mark :: rest) =
      (spoken rest).map (.literal mark (String.ofList raw) :: ·) := by
  have hsplit : settings.split mark (raw ++ mark :: rest) =
      some (.quotation mark, raw ++ [mark], rest) := by
    have hquotation : splitQuotation mark (raw ++ mark :: rest) = some (raw ++ [mark], rest) :=
      (splitQuotation_eq_some_iff (ne_backslash_of_isQuote hmark)).2 ⟨raw, rfl, rfl, hraw⟩
    simp [LexicalSettings.split, hmark, hquotation]
  rw [List.cons_append, spoken_cons hsplit]
  refine congrArg (Option.map · (spoken rest)) (funext fun ws => ?_)
  simp [addWord]

/-! ### Words that have been spelled -/

/-- A quotation in a text is closed. -/
theorem exists_quotable_of_split {c mark : Char} {tail body rest : List Char}
    (h : settings.split c tail = some (.quotation mark, body, rest)) :
    isQuote mark = true ∧ ∃ raw, body = raw ++ [mark] ∧ Quotable mark raw := by
  unfold LexicalSettings.split at h
  split at h
  next hquote =>
    obtain ⟨⟨body, rest⟩, hsplit, heq⟩ := Option.map_eq_some_iff.1 h
    cases heq
    obtain ⟨raw, hbody, -, hraw⟩ :=
      (splitQuotation_eq_some_iff (ne_backslash_of_isQuote hquote)).1 hsplit
    exact ⟨hquote, raw, hbody, hraw⟩
  next =>
    have hkind : (settings.shape c).kind = .quotation mark := (Prod.mk.inj (Option.some.inj h)).1
    cases hshape : settings.shape c <;> simp [hshape, LexemeShape.kind] at hkind

theorem spelled_of_mem_addWord {c : Char} {tail body rest : List Char} {kind : LexemeKind}
    (hsplit : settings.split c tail = some (kind, body, rest)) {colon : Bool} {ws : List Word}
    (hws : ∀ w ∈ ws, w.Spelled) : ∀ w ∈ addWord kind (c :: body) colon ws, w.Spelled := by
  have hname : kind = .number ∨ kind = .name →
      ∀ w ∈ addWord kind (c :: body) colon ws, w.Spelled := by
    intro hkind
    cases h : isName (c :: body) with
    | false =>
      rcases hkind with rfl | rfl
      · simpa [addWord, h, Word.Spelled] using hws
      · simpa [addWord, h, Word.Spelled] using hws
    | true =>
      have htext : isName (String.ofList (c :: body)).toList = true := by
        rwa [String.toList_ofList]
      have hne : String.ofList (c :: body) ≠ "" := by simp
      rw [addWord_name hkind h]
      split
      · exact List.forall_mem_cons.2 ⟨⟨htext, hne⟩, fun w hw => hws w (List.mem_of_mem_tail hw)⟩
      · exact List.forall_mem_cons.2 ⟨Word.spelled_ofSpelling htext hne, hws⟩
  cases kind with
  | blank => exact hws
  | comment => exact hws
  | quotation mark =>
    obtain ⟨hmark, raw, rfl, hraw⟩ := exists_quotable_of_split hsplit
    refine List.forall_mem_cons.2 ⟨⟨hmark, ?_⟩, hws⟩
    simpa using hraw
  | bracket | operator =>
    unfold addWord
    dsimp only
    split
    · exact List.forall_mem_cons.2 ⟨trivial, hws⟩
    · exact List.forall_mem_cons.2 ⟨trivial, hws⟩
  | number => exact hname (.inl rfl)
  | name => exact hname (.inr rfl)

/-- The words of a text have been spelled by it. -/
theorem spelled_of_spoken {cs : List Char} {ws : List Word} (h : spoken cs = some ws) :
    ∀ w ∈ ws, w.Spelled := by
  induction cs using LexicalSettings.text_induction (s := settings) generalizing ws with
  | nil =>
    rw [spoken_nil] at h
    cases h
    exact List.forall_mem_nil _
  | unended c tail hsplit => cases (spoken_cons_of_unterminated hsplit).symm.trans h
  | lexeme c tail kind body rest hsplit ih =>
    rw [spoken_cons hsplit] at h
    obtain ⟨ws', hws', rfl⟩ := Option.map_eq_some_iff.1 h
    exact spelled_of_mem_addWord hsplit (ih hws')

end GrammarText

end BranchLR
