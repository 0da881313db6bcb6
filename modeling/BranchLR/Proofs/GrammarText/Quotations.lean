import BranchLR.GrammarText.Printer
import BranchLR.GrammarText.Word

/-!
# Quotations

A quotation ends at the first mark that no backslash belongs to, where every backslash takes the
next character with it. A string literal is written with its marks and its backslashes escaped and
so is read back as it was. In a pattern only the marks are escaped. That goes wrong where a mark
already has a backslash of its own: written one after the other, the two backslashes belong together
and the mark ends the quotation. Such a mark is directly behind an odd number of backslashes.
-/

namespace BranchLR.GrammarText

/-- The characters can stand between two marks: each backslash has a character behind it that
belongs to it, and each mark inside belongs to a backslash. -/
inductive Quotable (mark : Char) : List Char → Prop
  | nil : Quotable mark []
  | escape (c : Char) {cs : List Char} (h : Quotable mark cs) : Quotable mark ('\\' :: c :: cs)
  | plain {c : Char} {cs : List Char} (hc : c ≠ '\\') (hmark : c ≠ mark) (h : Quotable mark cs) :
      Quotable mark (c :: cs)

theorem ne_backslash_of_isQuote {mark : Char} (h : isQuote mark = true) : mark ≠ '\\' := by
  rintro rfl
  exact absurd h (by decide)

/-- A quotation is split behind the first mark that can end it. -/
theorem splitQuotation_eq_some_iff {mark : Char} (hmark : mark ≠ '\\') {cs body rest : List Char} :
    splitQuotation mark cs = some (body, rest) ↔
      ∃ raw, body = raw ++ [mark] ∧ cs = raw ++ mark :: rest ∧ Quotable mark raw := by
  constructor
  · intro h
    fun_induction splitQuotation mark cs generalizing body with
    | case1 => cases h
    | case2 => cases h
    | case3 c cs ih =>
      obtain ⟨⟨b, r⟩, hb, he⟩ := Option.map_eq_some_iff.1 h
      cases he
      obtain ⟨raw, rfl, rfl, hraw⟩ := ih hb
      exact ⟨'\\' :: c :: raw, rfl, rfl, .escape c hraw⟩
    | case4 c cs =>
      cases h
      exact ⟨[], rfl, rfl, .nil⟩
    | case5 c cs _ hpair hne ih =>
      obtain ⟨⟨b, r⟩, hb, he⟩ := Option.map_eq_some_iff.1 h
      cases he
      obtain ⟨raw, rfl, rfl, hraw⟩ := ih hb
      -- a backslash would have taken the next character along
      have hc : c ≠ '\\' := by
        rintro rfl
        cases raw with
        | nil => exact hpair mark rest rfl rfl
        | cons d raw => exact hpair d (raw ++ mark :: rest) rfl rfl
      exact ⟨c :: raw, rfl, rfl, .plain hc hne hraw⟩
  · rintro ⟨raw, rfl, rfl, hraw⟩
    induction hraw with
    | nil => simp [splitQuotation, hmark]
    | escape c _ ih => simp [splitQuotation, ih]
    | plain hc hne _ ih => simp [splitQuotation, hc, hne, ih]

/-- Each backslash has a character behind it that belongs to it. -/
inductive Paired : List Char → Prop
  | nil : Paired []
  | escape (c : Char) {cs : List Char} (h : Paired cs) : Paired ('\\' :: c :: cs)
  | plain {c : Char} {cs : List Char} (hc : c ≠ '\\') (h : Paired cs) : Paired (c :: cs)

/-- What a quotation stands for keeps its backslashes together with the characters behind them, as
long as only marks lose theirs. -/
theorem Quotable.paired_unescape {mark : Char} (hmark : mark ≠ '\\') {raw : List Char}
    (h : Quotable mark raw) : Paired (unescape (fun c => c == mark) raw) := by
  induction h with
  | nil => exact .nil
  | escape c _ ih =>
    by_cases hc : c = mark
    · simpa [unescape, hc] using .plain hmark ih
    · simpa [unescape, hc] using .escape c ih
  | plain hc _ _ ih => simpa [unescape, hc] using .plain hc ih

/-- Reading a quotation drops nothing but backslashes. -/
theorem count_unescape (plain : Char → Bool) {c : Char} (hc : c ≠ '\\') (cs : List Char) :
    (unescape plain cs).count c = cs.count c := by
  fun_induction unescape plain cs with
  | case1 => rfl
  | case2 => rfl
  | case3 d cs _ ih => simp [List.count_cons, ih, hc.symm]
  | case4 d cs _ ih => simp [List.count_cons, ih]
  | case5 d cs _ _ ih => simp [List.count_cons, ih]

/-! ### Writing quotations -/

/-- The characters of a text as they stand between two marks. -/
def escapes (mark : Char) (escapeBackslash : Bool) (cs : List Char) : List Char :=
  cs.flatMap fun c => if c == mark || (escapeBackslash && c == '\\') then ['\\', c] else [c]

theorem toList_betweenMarks (mark : Char) (escapeBackslash : Bool) (text : String) :
    (betweenMarks mark escapeBackslash text).toList =
      mark :: escapes mark escapeBackslash text.toList ++ [mark] := by
  simp [betweenMarks, escapes]

theorem escapes_cons_escaped {mark c : Char} {escapeBackslash : Bool}
    (h : c = mark ∨ escapeBackslash = true ∧ c = '\\') (cs : List Char) :
    escapes mark escapeBackslash (c :: cs) = '\\' :: c :: escapes mark escapeBackslash cs := by
  simp [escapes, h]

theorem escapes_cons_plain {mark c : Char} {escapeBackslash : Bool}
    (h : ¬(c = mark ∨ escapeBackslash = true ∧ c = '\\')) (cs : List Char) :
    escapes mark escapeBackslash (c :: cs) = c :: escapes mark escapeBackslash cs := by
  simp [escapes, h]

/-- A string literal is written as a quotation, which stands for it again. -/
theorem quotable_escapes (mark : Char) (cs : List Char) :
    Quotable mark (escapes mark true cs) ∧
      unescape (fun c => c == mark || c == '\\') (escapes mark true cs) = cs := by
  induction cs with
  | nil => exact ⟨.nil, rfl⟩
  | cons c cs ih =>
    by_cases hc : c = mark ∨ c = '\\'
    · rw [escapes_cons_escaped (by simpa using hc)]
      exact ⟨.escape c ih.1, by simp [unescape, hc, ih.2]⟩
    · rw [escapes_cons_plain (by simpa using hc)]
      obtain ⟨hmark, hbackslash⟩ := not_or.1 hc
      exact ⟨.plain hbackslash hmark ih.1, by simp [unescape, hbackslash, ih.2]⟩

/-- A double quote stands directly behind an odd number of backslashes. -/
def OddlyEscaped (cs : List Char) : Prop :=
  ∃ before n after, cs = before ++ List.replicate (2 * n + 1) '\\' ++ '"' :: after ∧
    before.getLast? ≠ some '\\'

theorem not_oddlyEscaped_nil : ¬OddlyEscaped [] := by
  rintro ⟨before, n, after, heq, -⟩
  simp at heq

theorem oddlyEscaped_cons_iff {c : Char} (hc : c ≠ '\\') {cs : List Char} :
    OddlyEscaped (c :: cs) ↔ OddlyEscaped cs := by
  constructor
  · rintro ⟨before, n, after, heq, hlast⟩
    cases before with
    | nil => exact absurd (List.cons.inj heq).1 hc
    | cons b before =>
      refine ⟨before, n, after, (List.cons.inj heq).2, fun h => hlast ?_⟩
      simp [List.getLast?_cons, h]
  · rintro ⟨before, n, after, rfl, hlast⟩
    refine ⟨c :: before, n, after, rfl, ?_⟩
    cases hbefore : before.getLast? with
    | none => simpa [List.getLast?_cons, hbefore] using hc
    | some b => simpa [List.getLast?_cons, hbefore] using hlast

/-- A backslash and the character that belongs to it change nothing for what follows. -/
theorem oddlyEscaped_escape_iff {c : Char} {cs : List Char} :
    OddlyEscaped ('\\' :: c :: cs) ↔ c = '"' ∨ OddlyEscaped cs := by
  constructor
  · rintro ⟨before, n, after, heq, hlast⟩
    match before, n with
    | [], 0 => exact .inl (List.cons.inj (List.cons.inj heq).2).1
    | [], n + 1 => exact .inr ⟨[], n, after, (List.cons.inj (List.cons.inj heq).2).2, nofun⟩
    | [b], n =>
      exact absurd (congrArg some (List.cons.inj heq).1.symm) hlast
    | b :: b' :: before, n =>
      refine .inr ⟨before, n, after, (List.cons.inj (List.cons.inj heq).2).2, fun h => hlast ?_⟩
      simp [List.getLast?_cons, h]
  · rintro (rfl | ⟨before, n, after, rfl, hlast⟩)
    · exact ⟨[], 0, cs, rfl, nofun⟩
    · by_cases hc : before = [] ∧ c = '\\'
      · obtain ⟨rfl, rfl⟩ := hc
        exact ⟨[], n + 1, after, rfl, nofun⟩
      · refine ⟨'\\' :: c :: before, n, after, rfl, ?_⟩
        cases hbefore : before.getLast? with
        | none => simpa [List.getLast?_cons, hbefore] using fun h => hc ⟨by simpa using hbefore, h⟩
        | some b => simpa [List.getLast?_cons, hbefore] using hlast

/-- A pattern in which no double quote is oddly escaped is written as a quotation, which stands for
it again. -/
theorem Paired.quotable_escapes {cs : List Char} (h : Paired cs) (hodd : ¬OddlyEscaped cs) :
    Quotable '"' (escapes '"' false cs) ∧
      unescape (fun c => c == '"') (escapes '"' false cs) = cs := by
  induction h with
  | nil => exact ⟨.nil, rfl⟩
  | escape c _ ih =>
    obtain ⟨hc, hodd⟩ := not_or.1 (mt oddlyEscaped_escape_iff.2 hodd)
    obtain ⟨hquotable, hunescape⟩ := ih hodd
    rw [escapes_cons_plain (by decide), escapes_cons_plain (by simpa using hc)]
    exact ⟨.escape c hquotable, by simp [unescape, hc, hunescape]⟩
  | @plain c _ hc _ ih =>
    obtain ⟨hquotable, hunescape⟩ := ih (mt (oddlyEscaped_cons_iff hc).2 hodd)
    by_cases hquote : c = '"'
    · rw [escapes_cons_escaped (.inl hquote)]
      exact ⟨.escape c hquotable, by simp [unescape, hquote, hunescape]⟩
    · rw [escapes_cons_plain (by simpa using hquote)]
      exact ⟨.plain hc hquote hquotable, by simp [unescape, hc, hunescape]⟩

/-- A pattern in which a double quote is oddly escaped is written so that the quotation ends at one
of its double quotes, with fewer of them inside. -/
theorem Paired.exists_quotable {cs : List Char} (h : Paired cs) (hodd : OddlyEscaped cs)
    (tail : List Char) :
    ∃ raw rest, escapes '"' false cs ++ tail = raw ++ '"' :: rest ∧ Quotable '"' raw ∧
      raw.count '"' < cs.count '"' := by
  induction h with
  | nil => exact absurd hodd not_oddlyEscaped_nil
  | @escape c cs _ ih =>
    rw [escapes_cons_plain (by decide)]
    by_cases hc : c = '"'
    · -- The backslash in front of the double quote ends up behind another one.
      subst hc
      rw [escapes_cons_escaped (.inl rfl)]
      refine ⟨['\\', '\\'], escapes '"' false cs ++ tail, rfl, .escape _ .nil, ?_⟩
      simp
    · obtain ⟨raw, rest, heq, hraw, hcount⟩ := ih ((oddlyEscaped_escape_iff.1 hodd).resolve_left hc)
      rw [escapes_cons_plain (by simpa using hc)]
      refine ⟨'\\' :: c :: raw, rest, by simp [heq], .escape c hraw, ?_⟩
      simpa [List.count_cons, hc] using hcount
  | @plain c cs hc _ ih =>
    obtain ⟨raw, rest, heq, hraw, hcount⟩ := ih ((oddlyEscaped_cons_iff hc).1 hodd)
    by_cases hquote : c = '"'
    · subst hquote
      rw [escapes_cons_escaped (.inl rfl)]
      refine ⟨'\\' :: '"' :: raw, rest, by simp [heq], .escape _ hraw, ?_⟩
      simpa [List.count_cons] using hcount
    · rw [escapes_cons_plain (by simpa using hquote)]
      refine ⟨c :: raw, rest, by simp [heq], .plain hc hquote hraw, ?_⟩
      simpa [List.count_cons, hquote] using hcount

theorem literalText_escapes (text : String) :
    literalText '\'' (String.ofList (escapes '\'' true text.toList)) = text := by
  simp [literalText, (quotable_escapes '\'' text.toList).2]

end BranchLR.GrammarText
