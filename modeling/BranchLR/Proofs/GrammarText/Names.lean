import BranchLR.Proofs.Flattening.HelperNames
import BranchLR.Proofs.GrammarText.Phrases

/-!
# Names in grammar texts

Names in a grammar text are made of letters, digits and underscores, and a number sign opens a
comment. So no word and no clause of a text has a name that contains the mark of helpers, neither
to declare an item nor to refer to one.
-/

namespace BranchLR.GrammarText

/-- A word without the mark of helpers in its name. -/
def Word.Unmarked : Word → Prop
  | .itemName s => '#' ∉ s.toList
  | .name s => '#' ∉ s.toList
  | _ => True

theorem not_mem_of_isName {text : List Char} (h : isName text = true) :
    '#' ∉ (String.ofList text).toList := by
  rw [String.toList_ofList]
  intro hmem
  have hchar := List.all_eq_true.1 h _ hmem
  exact absurd hchar (by decide)

theorem Word.unmarked_ofSpelling {s : String} (h : '#' ∉ s.toList) : (Word.ofSpelling s).Unmarked := by
  unfold Word.ofSpelling
  split
  · trivial
  · trivial
  · trivial
  · exact h

/-- The words of a sequence of lexemes are unmarked. -/
theorem unmarked_of_mem_wordsOf (xs : List Lexeme) : ∀ w ∈ wordsOf xs, w.2.Unmarked := by
  induction xs with
  | nil => nofun
  | cons x xs ih =>
    have hcons : ∀ word : Word, word.Unmarked →
        ∀ w ∈ (x.position, word) :: wordsOf xs, w.2.Unmarked :=
      fun word hword => List.forall_mem_cons.2 ⟨hword, ih⟩
    have hname : ∀ w ∈ (if !isName x.text then
          (x.position, Word.invalid (String.ofList x.text)) :: wordsOf xs
        else if colonFollows xs then
          (x.position, Word.itemName (String.ofList x.text)) :: (wordsOf xs).tail
        else (x.position, Word.ofSpelling (String.ofList x.text)) :: wordsOf xs),
        w.2.Unmarked := by
      split
      next => exact hcons _ trivial
      next hvalid =>
        have htext : '#' ∉ (String.ofList x.text).toList :=
          not_mem_of_isName (by simpa using hvalid)
        split
        · exact List.forall_mem_cons.2 ⟨htext, fun w hw => ih w (List.mem_of_mem_tail hw)⟩
        · exact hcons _ (Word.unmarked_ofSpelling htext)
    unfold wordsOf
    dsimp only
    split
    next => exact ih
    next => exact ih
    next => exact hcons _ trivial
    next =>
      split
      · exact hcons _ trivial
      · exact hcons _ trivial
    next =>
      split
      · exact hcons _ trivial
      · exact hcons _ trivial
    next => exact hname
    next => exact hname

variable [RegexLibrary]

/-- Rules that refer only to names without the mark of helpers. -/
def UnmarkedRules (rules : List Rule) : Prop :=
  ∀ name ∈ Rule.referencesAll rules, '#' ∉ name.toList

theorem unmarkedRules_of_referencesAll {rules : List Rule} (h : Rule.referencesAll rules = []) :
    UnmarkedRules rules := by
  intro name hname
  rw [h] at hname
  exact absurd hname List.not_mem_nil

theorem unmarkedRules_nil : UnmarkedRules [] := unmarkedRules_of_referencesAll rfl

theorem referencesAll_append (as bs : List Rule) :
    Rule.referencesAll (as ++ bs) = Rule.referencesAll as ++ Rule.referencesAll bs := by
  induction as with
  | nil => rfl
  | cons a as ih => simp [Rule.referencesAll, ih]

theorem UnmarkedRules.append {as bs : List Rule} (has : UnmarkedRules as)
    (hbs : UnmarkedRules bs) : UnmarkedRules (as ++ bs) := by
  intro name hname
  rw [referencesAll_append] at hname
  rcases List.mem_append.1 hname with hname | hname
  · exact has name hname
  · exact hbs name hname

/-- A bracket refers to what its contents refer to. -/
theorem UnmarkedRules.bracket {rules : List Rule} (h : UnmarkedRules rules) (kind : BracketKind) :
    UnmarkedRules [kind.rule rules] := by
  intro name hname
  have hreferences : Rule.referencesAll [kind.rule rules] = Rule.referencesAll rules := by
    cases kind <;> simp [BracketKind.rule, Rule.referencesAll, Rule.references]
  exact h name (hreferences ▸ hname)

/-! ### Clauses -/

/-- A clause that neither declares nor refers to a name with the mark of helpers. -/
def Clause.Unmarked : Clause → Prop
  | .item name _ => '#' ∉ name.toList
  | .body _ (.ok (.rule r)) => UnmarkedRules [r]
  | _ => True

theorem unmarkedRules_of_braced {w : Word} {r : Rule} (h : braced w = .ok r) :
    UnmarkedRules [r] := by
  unfold braced at h
  split at h
  next =>
    dsimp only at h
    split at h
    · cases h
      exact unmarkedRules_of_referencesAll rfl
    · cases h
  next =>
    cases h
    exact unmarkedRules_of_referencesAll rfl
  next =>
    cases h
    exact unmarkedRules_of_referencesAll rfl
  next => cases h

theorem unmarked_single (p : Position) {w : Word} (h : w.Unmarked) : (single p w).Unmarked := by
  unfold single
  split
  next => exact h
  next s =>
    intro name hname
    obtain rfl : name = s := by simpa [Rule.referencesAll, Rule.references] using hname
    exact h
  next => exact unmarkedRules_of_referencesAll rfl
  all_goals trivial

/-- The clauses of unmarked words are unmarked. -/
theorem unmarked_of_mem_clauses (ws : List (Position × Word)) (h : ∀ w ∈ ws, w.2.Unmarked) :
    ∀ c ∈ clauses ws, c.2.Unmarked := by
  fun_induction clauses ws with
  | case1 => exact List.forall_mem_nil _
  | case2 p q s rest ih | case3 p q s rest ih =>
    obtain ⟨-, hs, hrest⟩ := by simpa only [List.forall_mem_cons] using h
    exact List.forall_mem_cons.2 ⟨hs, ih hrest⟩
  | case4 p q s rest ih =>
    obtain ⟨-, -, hrest⟩ := by simpa only [List.forall_mem_cons] using h
    exact List.forall_mem_cons.2 ⟨trivial, ih hrest⟩
  | case5 => simp [Clause.Unmarked]
  | case6 p q w _ rest r hbraced ih =>
    obtain ⟨-, -, -, hrest⟩ := by simpa only [List.forall_mem_cons] using h
    exact List.forall_mem_cons.2 ⟨unmarkedRules_of_braced hbraced, ih hrest⟩
  | case7 => simp [Clause.Unmarked]
  | case8 => simp [Clause.Unmarked]
  | case9 p w rest _ _ _ _ _ _ ih =>
    obtain ⟨hw, hrest⟩ := List.forall_mem_cons.1 h
    exact List.forall_mem_cons.2 ⟨unmarked_single p hw, ih hrest⟩

end BranchLR.GrammarText
