import BranchLR.Text.BracketPairs
import BranchLR.Pattern.Engine
import BranchLR.Proofs.GrammarText.Relocation
import BranchLR.Proofs.GrammarText.Spelling

/-!
# Layout carries no meaning

White space and comments keep words apart and say nothing. When the white space of a text is
replaced by other white space, and its comments by other comments, every other lexeme still ends
where it did: its neighbour starts with the same character as before, or with white space, which
continues nothing. A comment still ends with its line. So the words stay the same, and with them the
grammar or the fault; only the positions change.
-/

namespace BranchLR.GrammarText

section Library

variable [BracketSet]

/-- The characters stand for a lexeme in another layout of its text. White space is replaced by any
white space, which has to begin with the end of a line if it ends a comment. A comment is replaced
by any other comment. Everything else is kept. -/
inductive Replaces (behindComment : Bool) : Lexeme → List Char → Prop
  | blank {x : Lexeme} {c : Char} {cs : List Char} (hkind : x.kind = .blank)
      (hblank : ∀ d ∈ c :: cs, isBlank d = true)
      (hends : behindComment = true → c = '\n' ∨ c = '\r') : Replaces behindComment x (c :: cs)
  | comment {x : Lexeme} {cs : List Char} (hkind : x.kind = .comment)
      (hline : ∀ d ∈ cs, d ≠ '\n' ∧ d ≠ '\r') : Replaces behindComment x ('#' :: cs)
  | kept {x : Lexeme} (hblank : x.kind ≠ .blank) (hcomment : x.kind ≠ .comment) :
      Replaces behindComment x x.text

/-- The characters are another layout of the text of the lexemes, which may stand directly behind a
comment. -/
inductive Relaid : Bool → List Lexeme → List Char → Prop
  | nil (behindComment : Bool) : Relaid behindComment [] []
  | cons {behindComment : Bool} {x : Lexeme} {xs : List Lexeme} {cs rest : List Char}
      (hfirst : Replaces behindComment x cs) (hrest : Relaid (x.kind == .comment) xs rest) :
      Relaid behindComment (x :: xs) (cs ++ rest)

variable {behindComment : Bool} {p : Position} {offset : Nat} {c : Char}
  {cs cs' tail body rest rest' : List Char} {kind : LexemeKind}

theorem eq_numberSign_of_split (h : settings.split c tail = some (.comment, body, rest)) :
    c = '#' := by
  have hcomment : settings.comment = some c := LexicalSettings.comment_eq_of_split h
  exact (Option.some.inj hcomment).symm

/-- A comment goes on up to the end of its line. -/
theorem continues_numberSign (d : Char) :
    settings.continues (settings.shape '#') d = (d != '\n' && d != '\r') := rfl

/-- In another layout a text starts with the same character, or with white space. -/
theorem Relaid.head? (h : Relaid behindComment (scanFrom settings p offset cs).lexemes cs')
    (herror : (scanFrom settings p offset cs).error = none) :
    cs'.head? = cs.head? ∨ ∃ d, cs'.head? = some d ∧ isBlank d = true ∧
      (behindComment = true → d = '\n' ∨ d = '\r') := by
  cases cs with
  | nil =>
    rw [scanFrom] at h
    cases h
    exact .inl rfl
  | cons c tail =>
    cases hsplit : settings.split c tail with
    | none =>
      rw [scanFrom_cons_of_unterminated hsplit] at herror
      cases herror
    | some parts =>
      obtain ⟨kind, body, rest⟩ := parts
      rw [scanFrom_cons hsplit] at h
      cases h with
      | cons hfirst _ =>
        cases hfirst with
        | @blank d ds _ hblank hends =>
          exact .inr ⟨d, rfl, hblank d List.mem_cons_self, hends⟩
        | comment hkind _ =>
          obtain rfl : kind = .comment := hkind
          obtain rfl := eq_numberSign_of_split hsplit
          exact .inl rfl
        | kept _ _ => exact .inl rfl

/-- A lexeme other than white space ends where it did when what follows it is laid out anew. -/
theorem Relaid.endsBefore
    (h : Relaid (kind == .comment) (scanFrom settings p offset rest).lexemes rest')
    (herror : (scanFrom settings p offset rest).error = none)
    (hsplit : settings.split c tail = some (kind, body, rest)) (hblank : kind ≠ .blank) :
    settings.EndsBefore c rest' := by
  rcases h.head? herror with hhead | ⟨d, hhead, hd, hends⟩
  · intro hquote e he
    rw [hhead] at he
    exact LexicalSettings.endsBefore_of_split hsplit hquote e he
  · obtain ⟨ds, rfl⟩ := List.head?_eq_some_iff.1 hhead
    by_cases hcomment : kind = .comment
    · subst hcomment
      obtain rfl := eq_numberSign_of_split hsplit
      intro _ e he
      obtain rfl : d = e := by simpa using he
      rw [continues_numberSign]
      rcases hends rfl with rfl | rfl <;> rfl
    · exact LexicalSettings.endsBefore_of_isBlank hsplit hblank hcomment hd ds

theorem split_comment (hline : ∀ d ∈ body, d ≠ '\n' ∧ d ≠ '\r')
    (hends : settings.EndsBefore '#' rest) :
    settings.split '#' (body ++ rest) = some (.comment, body, rest) := by
  have hquote : isQuote '#' = false := by decide
  refine LexicalSettings.split_of_continues hquote rfl ?_ (hends hquote)
  intro d hd
  simpa [continues_numberSign] using hline d hd

theorem spoken_blanks_append {w : List Char} (hw : ∀ d ∈ w, isBlank d = true) (cs : List Char) :
    spoken (w ++ cs) = spoken cs ∧ colonAhead (w ++ cs) = colonAhead cs := by
  induction w with
  | nil => exact ⟨rfl, rfl⟩
  | cons d w ih =>
    obtain ⟨hd, hw⟩ := List.forall_mem_cons.1 hw
    rw [List.cons_append, spoken_cons_of_isBlank hd, colonAhead_cons_of_isBlank hd]
    exact ih hw

/-- Another layout of a text spells the same words. -/
theorem Relaid.spoken_eq (h : Relaid behindComment (scanFrom settings p offset cs).lexemes cs')
    (herror : (scanFrom settings p offset cs).error = none) :
    spoken cs' = spoken cs ∧ colonAhead cs' = colonAhead cs := by
  induction cs using LexicalSettings.text_induction (s := settings)
    generalizing behindComment p offset cs' with
  | nil =>
    rw [scanFrom] at h
    cases h
    exact ⟨rfl, rfl⟩
  | unended c tail hsplit =>
    rw [scanFrom_cons_of_unterminated hsplit] at herror
    cases herror
  | lexeme c tail kind body rest hsplit ih =>
    rw [scanFrom_cons hsplit] at h herror
    cases h with
    | @cons _ _ _ first rest' hfirst hrest =>
      obtain ⟨hspoken, hcolon⟩ := ih hrest herror
      cases hfirst with
      | blank hkind hblank _ =>
        -- Both runs of white space are passed over, whatever their lengths.
        obtain rfl : kind = .blank := hkind
        have hc : isBlank c = true := LexicalSettings.isBlank_of_split hsplit
        obtain ⟨hspoken', hcolon'⟩ := spoken_blanks_append hblank rest'
        rw [hspoken', hcolon', hspoken, hcolon, spoken_cons hsplit, colonAhead_cons_of_isBlank hc]
        rw [split_of_isBlank hc] at hsplit
        cases hsplit
        exact ⟨Option.map_id'.symm, colonAhead_dropWhile tail⟩
      | comment hkind hline =>
        obtain rfl : kind = .comment := hkind
        obtain rfl := eq_numberSign_of_split hsplit
        have hkind : LexemeKind.comment ≠ .blank := by decide
        have hsplit' := split_comment hline (hrest.endsBefore herror hsplit hkind)
        rw [List.cons_append, spoken_cons hsplit', spoken_cons hsplit, hspoken]
        exact ⟨rfl, rfl⟩
      | kept hblank _ =>
        -- What follows may start with white space now, but that does not go on with the lexeme.
        have hends := hrest.endsBefore herror hsplit hblank
        have hsplit' := LexicalSettings.split_append_of_endsBefore hsplit hends
        have hc : isBlank c = false := by
          rw [Bool.eq_false_iff]
          intro hc
          rw [split_of_isBlank hc] at hsplit
          cases hsplit
          exact hblank rfl
        rw [List.cons_append, spoken_cons hsplit', spoken_cons hsplit, hspoken, hcolon,
          colonAhead_cons_of_not_isBlank hc, colonAhead_cons_of_not_isBlank hc]
        exact ⟨rfl, rfl⟩

/-- The words of a text are those that its characters spell. -/
theorem spoken_toList_eq_some_iff {text : String} {vs : List Word} :
    spoken text.toList = some vs ↔
      ∃ ws stop, words text = .ok (ws, stop) ∧ ws.map Prod.snd = vs := by
  unfold spoken
  rw [String.ofList_toList]
  cases words text with
  | error e => simp
  | ok result =>
    obtain ⟨ws, stop⟩ := result
    simp

/-- **Layout and comments carry no meaning.** A text that can be divided into lexemes and every
other layout of it have the same words, and give the same grammar or the same fault. -/
theorem read_relaid [RegexLibrary] {text text' : String} (hscan : (scan settings text).error = none)
    (h : Relaid false (scan settings text).lexemes text'.toList) :
    (∃ ws ws' stop stop', words text = .ok (ws, stop) ∧ words text' = .ok (ws', stop') ∧
      ws'.map Prod.snd = ws.map Prod.snd) ∧
    (Grammar.read text').mapError SyntaxError.fault =
      (Grammar.read text).mapError SyntaxError.fault := by
  obtain ⟨ws, stop, hwords⟩ : ∃ ws stop, words text = .ok (ws, stop) := by
    simp [words, hscan]
  have hspoken : spoken text'.toList = some (ws.map Prod.snd) := by
    rw [(h.spoken_eq hscan).1]
    exact spoken_toList_eq_some_iff.2 ⟨ws, stop, hwords, rfl⟩
  obtain ⟨ws', stop', hwords', hsame⟩ := spoken_toList_eq_some_iff.1 hspoken
  refine ⟨⟨ws, ws', stop, stop', hwords, hwords', hsame⟩, ?_⟩
  unfold Grammar.read
  rw [hwords, hwords']
  exact readWords_eq_of_map_snd_eq hsame stop stop'

end Library

/-- A line feed comes before a colon, an em space before a comment, and the comment ends with a
carriage return: the text is laid out anew at all three places. -/
theorem read_relaid_lines :
    (scan settings "A :'x' #1\n|B").error = none ∧
    Relaid false (scan settings "A :'x' #1\n|B").lexemes "A\t\n:'x'\u2003#other\r |B".toList ∧
    (∃ ws ws' stop stop', words "A :'x' #1\n|B" = .ok (ws, stop) ∧
      words "A\t\n:'x'\u2003#other\r |B" = .ok (ws', stop') ∧
      ws'.map Prod.snd = ws.map Prod.snd) ∧
    (Grammar.read "A\t\n:'x'\u2003#other\r |B").mapError SyntaxError.fault =
      (Grammar.read "A :'x' #1\n|B").mapError SyntaxError.fault := by
  have hscan : scan settings "A :'x' #1\n|B" = ⟨[⟨.name, ['A'], ⟨1, 1⟩, 0⟩,
      ⟨.blank, [' '], ⟨1, 2⟩, 1⟩, ⟨.operator, [':'], ⟨1, 3⟩, 2⟩,
      ⟨.quotation '\'', ['\'', 'x', '\''], ⟨1, 4⟩, 3⟩, ⟨.blank, [' '], ⟨1, 7⟩, 6⟩,
      ⟨.comment, ['#', '1'], ⟨1, 8⟩, 7⟩, ⟨.blank, ['\n'], ⟨1, 10⟩, 9⟩,
      ⟨.operator, ['|'], ⟨2, 1⟩, 10⟩, ⟨.name, ['B'], ⟨2, 2⟩, 11⟩], none, ⟨2, 3⟩⟩ := by
    decide +kernel
  have herror : (scan settings "A :'x' #1\n|B").error = none := by rw [hscan]
  have hrelaid : Relaid false (scan settings "A :'x' #1\n|B").lexemes
      "A\t\n:'x'\u2003#other\r |B".toList := by
    have htext : "A\t\n:'x'\u2003#other\r |B".toList = ['A'] ++ (['\t', '\n'] ++ ([':'] ++
        (['\'', 'x', '\''] ++ (['\u2003'] ++ ('#' :: ['o', 't', 'h', 'e', 'r'] ++
        (['\r', ' '] ++ (['|'] ++ (['B'] ++ [])))))))) := by
      decide
    rw [hscan, htext]
    refine .cons (.kept (by decide) (by decide)) ?_
    refine .cons (.blank rfl (List.all_eq_true.1 (by decide)) nofun) ?_
    refine .cons (.kept (by decide) (by decide)) (.cons (.kept (by decide) (by decide)) ?_)
    refine .cons (.blank rfl (List.all_eq_true.1 (by decide)) nofun) ?_
    refine .cons (.comment rfl (by simp)) ?_
    refine .cons (.blank rfl (List.all_eq_true.1 (by decide)) fun _ => .inr rfl) ?_
    exact .cons (.kept (by decide) (by decide)) (.cons (.kept (by decide) (by decide)) (.nil _))
  exact ⟨herror, hrelaid, read_relaid herror hrelaid⟩

end BranchLR.GrammarText
