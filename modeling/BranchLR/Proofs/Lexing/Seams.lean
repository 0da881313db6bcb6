import BranchLR.Text.BracketPairs
import BranchLR.Input
import BranchLR.Proofs.Lexing.Positions

/-!
# Texts joined at white space

White space between two texts keeps their tokens apart. No token of the first text goes on into
white space, and how much white space there is makes no difference to the tokens behind it. So the
tokens of both texts together are those of the first and then those of the second, at the positions
to which the first text and the white space have moved them.
-/

namespace BranchLR

/-- The token once its text is put behind the given characters. -/
def Token.movedBehind (before : List Char) (t : Token) : Token :=
  { t with position := t.position.movedBehind before }

theorem Lexeme.token?_movedBehind (before : List Char) (x : Lexeme) :
    (x.movedBehind before).token? = x.token?.map (Token.movedBehind before) := by
  simp only [token?, Lexeme.movedBehind, Option.map_map]
  rfl

/-- Without special characters no white space is special. -/
theorem sparesBlanks_default : LexicalSettings.SparesBlanks {} := by
  intro c _
  exact ⟨nofun, nofun⟩

section Library

variable [BracketSet]

namespace TokenStream

variable {c d : Char} {tail body rest cs : List Char} {kind : LexemeKind}

/-- The tokens of characters that start at the given place, if they can be read to their end. -/
def lexFrom (p : Position) (offset : Nat) (cs : List Char) : Except LexicalError (List Token) :=
  match (scanFrom {} p offset cs).error with
  | some e => .error e
  | none => .ok ((scanFrom {} p offset cs).lexemes.filterMap Lexeme.token?)

theorem lex_eq_map_lexFrom (text : String) :
    lex text = (lexFrom .start 0 text.toList).map fun tokens => ⟨tokens.toArray⟩ := by
  unfold lex lexFrom scan
  dsimp only
  cases (scanFrom {} .start 0 text.toList).error <;> rfl

theorem lexFrom_nil (p : Position) (offset : Nat) : lexFrom p offset [] = .ok [] := by
  simp [lexFrom, scanFrom]

theorem lexFrom_cons_of_unterminated (h : LexicalSettings.split {} c tail = none) (p : Position)
    (offset : Nat) : lexFrom p offset (c :: tail) = .error (.unterminatedQuote p) := by
  simp [lexFrom, scanFrom_cons_of_unterminated h]

theorem lexFrom_cons (h : LexicalSettings.split {} c tail = some (kind, body, rest)) (p : Position)
    (offset : Nat) :
    lexFrom p offset (c :: tail) =
      (lexFrom (p.after (c :: body)) (offset + byteLength (c :: body)) rest).map
        ((Lexeme.token? ⟨kind, c :: body, p, offset⟩).toList ++ ·) := by
  rw [lexFrom, scanFrom_cons h, lexFrom]
  dsimp only
  split
  · rfl
  · rw [List.filterMap_cons]
    cases Lexeme.token? ⟨kind, c :: body, p, offset⟩ <;> rfl

/-- White space is passed over. -/
theorem lexFrom_cons_of_isBlank (h : isBlank c = true) (p : Position) (offset : Nat)
    (cs : List Char) :
    lexFrom p offset (c :: cs) = lexFrom (p.step c) (offset + c.utf8Size) cs := by
  -- A run of white space is one lexeme, which gives no token.
  have hrun : ∀ {c : Char} {cs : List Char} (p : Position) (offset : Nat), isBlank c = true →
      lexFrom p offset (c :: cs) = lexFrom (p.after (c :: cs.takeWhile isBlank))
        (offset + byteLength (c :: cs.takeWhile isBlank)) (cs.dropWhile isBlank) := by
    intro c cs p offset hc
    rw [lexFrom_cons (sparesBlanks_default.split_of_isBlank hc cs)]
    exact congrFun Except.map_id _
  rw [hrun p offset h]
  cases cs with
  | nil => rfl
  | cons d cs =>
    cases hd : isBlank d with
    | false => simp [hd, byteLength]
    | true => simp [hd, hrun _ _ hd, byteLength, Nat.add_assoc]

theorem lexFrom_blanks_append {w : List Char} (hw : ∀ c ∈ w, isBlank c = true) (p : Position)
    (offset : Nat) (cs : List Char) :
    lexFrom p offset (w ++ cs) = lexFrom (p.after w) (offset + byteLength w) cs := by
  induction w generalizing p offset with
  | nil => rfl
  | cons c w ih =>
    obtain ⟨hc, hw⟩ := List.forall_mem_cons.1 hw
    rw [List.cons_append, lexFrom_cons_of_isBlank hc, ih hw, Position.after_cons, byteLength,
      Nat.add_assoc]

/-- The tokens of a text that white space follows are those of the text and then those of what
follows. -/
theorem lexFrom_append {as : List Char} {tokens : List Token} {p : Position} {offset : Nat}
    (h : lexFrom p offset as = .ok tokens) (hd : isBlank d = true) (cs : List Char) :
    lexFrom p offset (as ++ d :: cs) =
      (lexFrom (p.after as) (offset + byteLength as) (d :: cs)).map (tokens ++ ·) := by
  induction as using sparesBlanks_default.text_induction generalizing p offset tokens with
  | nil =>
    rw [lexFrom_nil] at h
    cases h
    exact (congrFun Except.map_id _).symm
  | blank c as hc ih =>
    rw [lexFrom_cons_of_isBlank hc] at h
    rw [List.cons_append, lexFrom_cons_of_isBlank hc, ih h, Position.after_cons, byteLength,
      Nat.add_assoc]
  | unended c tail hsplit =>
    rw [lexFrom_cons_of_unterminated hsplit] at h
    cases h
  | lexeme c tail kind body rest hkind hsplit ih =>
    have hcomment : kind ≠ .comment := by
      rintro rfl
      cases LexicalSettings.comment_eq_of_split hsplit
    have htail : body ++ rest = tail := LexicalSettings.split_append hsplit
    have hsplit' : LexicalSettings.split {} c (tail ++ d :: cs) =
        some (kind, body, rest ++ d :: cs) := by
      rw [← htail, List.append_assoc]
      exact LexicalSettings.split_append_of_endsBefore hsplit
        (LexicalSettings.endsBefore_append_of_isBlank hsplit hkind hcomment hd cs)
    rw [lexFrom_cons hsplit] at h
    cases hrest : lexFrom (p.after (c :: body)) (offset + byteLength (c :: body)) rest with
    | error e =>
      rw [hrest] at h
      cases h
    | ok others =>
      rw [hrest] at h
      cases h
      rw [List.cons_append, lexFrom_cons hsplit', ih hrest, ← htail, ← List.cons_append,
        Position.after_append, byteLength_append, Nat.add_assoc]
      cases lexFrom _ _ (d :: cs) with
      | error e => rfl
      | ok more => simp [Except.map]

/-- White space between two texts only moves the second. -/
theorem lexFrom_append_blanks {as w : List Char} {tokens : List Token} {p : Position} {offset : Nat}
    (h : lexFrom p offset as = .ok tokens) (hw : w ≠ []) (hblank : ∀ c ∈ w, isBlank c = true)
    (bs : List Char) :
    lexFrom p offset (as ++ w ++ bs) =
      (lexFrom (p.after (as ++ w)) (offset + byteLength (as ++ w)) bs).map (tokens ++ ·) := by
  cases w with
  | nil => exact absurd rfl hw
  | cons d w =>
    have hd : isBlank d = true := hblank d List.mem_cons_self
    rw [List.append_assoc, List.cons_append, lexFrom_append h hd, ← List.cons_append,
      lexFrom_blanks_append hblank, Position.after_append, byteLength_append, Nat.add_assoc]

/-- Characters behind others give the same tokens, at the positions to which they are moved. -/
theorem lexFrom_counted (before cs : List Char) :
    lexFrom (.counted before) (byteLength before) cs =
      ((lexFrom .start 0 cs).map (List.map (Token.movedBehind before))).mapError
        (LexicalError.movedBehind before) := by
  have hscan := scanFrom_movedBehind {} before (p := .start) (Nat.le_refl 1) 0 cs
  rw [Position.start_movedBehind, Nat.zero_add] at hscan
  rw [lexFrom, hscan, lexFrom]
  cases (scanFrom {} .start 0 cs).error with
  | some e => rfl
  | none =>
    simp only [Option.map_none, List.filterMap_map, Function.comp_def, Lexeme.token?_movedBehind,
      ← List.map_filterMap]
    rfl

/-- **Lexing is a homomorphism at white space.** Behind a text that can be read and white space, a
second text gives its tokens or its error, moved behind both. -/
theorem lex_append_blank {a w : String} {first : TokenStream} (ha : lex a = .ok first) (hw : w ≠ "")
    (hblank : ∀ c ∈ w.toList, isBlank c = true) (b : String) :
    lex (a ++ w ++ b) =
      match lex b with
      | .ok second => .ok ⟨first.tokens ++ second.tokens.map (Token.movedBehind (a ++ w).toList)⟩
      | .error (.unterminatedQuote p) =>
        .error (.unterminatedQuote (p.movedBehind (a ++ w).toList)) := by
  rw [lex_eq_map_lexFrom] at ha
  cases htokens : lexFrom .start 0 a.toList with
  | error e =>
    rw [htokens] at ha
    cases ha
  | ok tokens =>
    rw [htokens] at ha
    cases ha
    have hw : w.toList ≠ [] := fun hnil => hw (String.toList_eq_nil_iff.1 hnil)
    have hjoined := lexFrom_append_blanks htokens hw hblank b.toList
    rw [← String.toList_append, ← String.toList_append, Position.start_after, Nat.zero_add,
      lexFrom_counted] at hjoined
    rw [lex_eq_map_lexFrom, hjoined, lex_eq_map_lexFrom]
    cases lexFrom .start 0 b.toList with
    | error e => rfl
    | ok others =>
      have harray : (tokens ++ others.map (Token.movedBehind (a ++ w).toList)).toArray =
          tokens.toArray ++ others.toArray.map (Token.movedBehind (a ++ w).toList) := by
        simp
      exact congrArg (Except.ok ∘ TokenStream.mk) harray

end TokenStream

end Library

namespace TokenStream

/-- A quotation with a line feed stands in the first text, and another line feed in the white space,
so the second text starts on the third line. -/
theorem lex_append_blank_lines :
    lex "'é\n' x" = .ok ⟨#[⟨"STRING", "'é\n'", ⟨1, 1⟩⟩, ⟨"IDENT", "x", ⟨2, 3⟩⟩]⟩ ∧
    lex ("'é\n' x" ++ " \n\t" ++ "y\n<") = .ok ⟨#[⟨"STRING", "'é\n'", ⟨1, 1⟩⟩,
      ⟨"IDENT", "x", ⟨2, 3⟩⟩, ⟨"IDENT", "y", ⟨3, 2⟩⟩, ⟨"OPERATOR", "<", ⟨4, 1⟩⟩]⟩ ∧
    lex ("'é\n' x" ++ " \n\t" ++ "12 'y") = .error (.unterminatedQuote ⟨3, 5⟩) := by
  have ha : lex "'é\n' x" = .ok ⟨#[⟨"STRING", "'é\n'", ⟨1, 1⟩⟩, ⟨"IDENT", "x", ⟨2, 3⟩⟩]⟩ := by
    decide +kernel
  have hb : lex "y\n<" = .ok ⟨#[⟨"IDENT", "y", ⟨1, 1⟩⟩, ⟨"OPERATOR", "<", ⟨2, 1⟩⟩]⟩ := by
    decide +kernel
  have hb' : lex "12 'y" = .error (.unterminatedQuote ⟨1, 4⟩) := by decide +kernel
  have hw : " \n\t" ≠ "" := by decide
  have hblank : ∀ c ∈ " \n\t".toList, isBlank c = true := List.all_eq_true.1 (by decide)
  refine ⟨ha, ?_, ?_⟩
  · rw [lex_append_blank ha hw hblank, hb]
    decide +kernel
  · rw [lex_append_blank ha hw hblank, hb']
    decide

end TokenStream

end BranchLR
