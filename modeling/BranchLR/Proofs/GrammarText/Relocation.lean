import BranchLR.GrammarText.Reader
import BranchLR.Proofs.GrammarText.Phrases

/-!
# Positions only place errors

The reader copies positions from the words into its state, and from there into errors, and never
looks at them. So when all positions of a text are changed by a function, each clause, each state
and each error on the way is changed by the same function and by nothing else. Words at other
places therefore give the same grammar, or the same fault.
-/

namespace BranchLR.GrammarText

variable (f : Position → Position)

/-- The error at another place. -/
def SyntaxError.relocate (e : SyntaxError) : SyntaxError := { e with position := f e.position }

@[simp]
theorem SyntaxError.relocate_mk (p : Position) (fault : SyntaxFault) :
    SyntaxError.relocate f ⟨p, fault⟩ = ⟨f p, fault⟩ := rfl

/-- An outcome with all its positions changed: that of an error, or those in what has been read. -/
def relocated {α : Type} (g : α → α) : Except SyntaxError α → Except SyntaxError α
  | .ok a => .ok (g a)
  | .error e => .error (e.relocate f)

@[simp]
theorem relocated_ok {α : Type} (g : α → α) (a : α) : relocated f g (.ok a) = .ok (g a) := rfl

@[simp]
theorem relocated_error {α : Type} (g : α → α) (e : SyntaxError) :
    relocated f g (.error e) = .error (e.relocate f) := rfl

/-- If both parts of a computation only carry positions along, so does the whole. -/
theorem relocated_bind {α β : Type} {g : α → α} {g' : β → β} {k k' : α → Except SyntaxError β}
    (h : ∀ a, k' (g a) = relocated f g' (k a)) (x : Except SyntaxError α) :
    (relocated f g x >>= k') = relocated f g' (x >>= k) := by
  cases x with
  | error e => rfl
  | ok a => exact h a

theorem missingName_relocate (p : Position) (k : Keyword) (rest : List (Position × Word)) :
    missingName (f p) k (rest.map (Prod.map f id)) = (missingName p k rest).relocate f := by
  cases rest <;> rfl

/-- Words at other places start as they did. -/
theorem exists_of_map_relocate_eq_cons {f : Position → Position} {ws rest : List (Position × Word)}
    {q : Position} {w : Word} (h : ws.map (Prod.map f id) = (q, w) :: rest) :
    ∃ p ws', ws = (p, w) :: ws' ∧ ws'.map (Prod.map f id) = rest := by
  obtain ⟨⟨p, v⟩, ws', rfl, heq, hrest⟩ := List.map_eq_cons_iff.1 h
  cases heq
  exact ⟨p, ws', rfl, hrest⟩

variable [RegexLibrary]

/-- The clause with the errors it carries at other places. -/
def Clause.relocate : Clause → Clause
  | item name kind => item name kind
  | start name => start name
  | body word piece => body word (relocated f id piece)
  | faulty e => faulty (e.relocate f)

def OpenBracket.relocate (b : OpenBracket) : OpenBracket := { b with position := f b.position }

def Draft.relocate (d : Draft) : Draft :=
  { d with position := f d.position, brackets := d.brackets.map (OpenBracket.relocate f) }

def Reader.relocate (r : Reader) : Reader :=
  { r with draft := r.draft.map (Draft.relocate f), start := r.start.map (Prod.map f id) }

/-! ### Clauses -/

theorem single_relocate (p : Position) (w : Word) : single (f p) w = (single p w).relocate f := by
  cases w with
  | delimiter d => cases d <;> rfl
  | _ => rfl

theorem malformedBrace_relocate (p : Position) (rest : List (Position × Word)) :
    malformedBrace (f p) (rest.map (Prod.map f id)) = (malformedBrace p rest).relocate f := by
  cases rest with
  | nil => rfl
  | cons first rest =>
    obtain ⟨q, w⟩ := first
    cases hbraced : braced w with
    | error fault => simp [malformedBrace, hbraced]
    | ok r => cases rest <;> simp [malformedBrace, hbraced]

/-- Words at other places are cut into the same clauses. -/
theorem clauses_relocate (ws : List (Position × Word)) :
    clauses (ws.map (Prod.map f id)) = (clauses ws).map (Prod.map f (Clause.relocate f)) := by
  fun_induction clauses ws with
  | case1 => rfl
  | case2 p q s rest ih | case3 p q s rest ih | case4 p q s rest ih =>
    simp [clauses, ih, Clause.relocate]
  | case5 p k rest htoken himported hstart =>
    rw [List.map_cons, Prod.map_apply, id, clauses, missingName_relocate]
    · rfl
    · intro _ s _ h
      obtain ⟨q, ws', rfl, -⟩ := exists_of_map_relocate_eq_cons h
      exact htoken q s ws' rfl
    · intro _ s _ h
      obtain ⟨q, ws', rfl, -⟩ := exists_of_map_relocate_eq_cons h
      exact himported q s ws' rfl
    · intro _ s _ h
      obtain ⟨q, ws', rfl, -⟩ := exists_of_map_relocate_eq_cons h
      exact hstart q s ws' rfl
  | case6 p q w _ rest r hr ih => simp [clauses, hr, ih, Clause.relocate]
  | case7 p q w _ rest fault hfault => simp [clauses, hfault, Clause.relocate]
  | case8 p rest hopen =>
    rw [List.map_cons, Prod.map_apply, id, clauses, malformedBrace_relocate]
    · rfl
    · intro _ w _ _ h
      obtain ⟨q, ws', rfl, h'⟩ := exists_of_map_relocate_eq_cons h
      obtain ⟨r, ws'', rfl, -⟩ := exists_of_map_relocate_eq_cons h'
      exact hopen q w r ws'' rfl
  | case9 p w rest _ _ _ hkeyword _ hbrace ih =>
    rw [List.map_cons, Prod.map_apply, id, clauses, single_relocate, ih]
    · rfl
    all_goals grind

/-! ### Reading -/

namespace Draft

variable (d : Draft) (p : Position)

theorem finishAlternative_relocate :
    (d.relocate f).finishAlternative (f p) =
      relocated f (relocate f) (d.finishAlternative p) := by
  unfold finishAlternative
  by_cases himported : d.item.isImported = true
  · simp [relocate, himported]
  · by_cases hempty : d.alternative.isEmpty = true
    · simp [relocate, himported, hempty]
    · simp [relocate, himported, hempty]

theorem addRule_relocate (r : Rule) :
    (d.relocate f).addRule (f p) r = relocated f (relocate f) (d.addRule p r) := by
  obtain ⟨q, item, alternative, brackets⟩ := d
  unfold addRule
  cases brackets with
  | cons b outer => cases r <;> rfl
  | nil =>
    by_cases htoken : item.isToken = true
    · simp only [relocate, List.map_nil, htoken, if_true]
      split <;> rfl
    · simp only [relocate, List.map_nil, if_neg htoken]
      split <;> rfl

theorem closeBracket_relocate (word : Word) (kind : BracketKind) :
    (d.relocate f).closeBracket (f p) word kind =
      relocated f (relocate f) (d.closeBracket p word kind) := by
  obtain ⟨q, item, alternative, brackets⟩ := d
  unfold closeBracket
  cases brackets with
  | nil => rfl
  | cons b outer =>
    by_cases hkind : b.kind = kind
    · by_cases hempty : b.rules.isEmpty = true
      · simp [relocate, OpenBracket.relocate, hkind, hempty]
      · have hrule := addRule_relocate f ⟨q, item, alternative, outer⟩ p (kind.rule b.rules)
        simpa [relocate, OpenBracket.relocate, hkind, hempty] using hrule
    · simp [relocate, OpenBracket.relocate, hkind]

theorem addPiece_relocate (word : Word) (piece : Piece) :
    (d.relocate f).addPiece (f p) word piece =
      relocated f (relocate f) (d.addPiece p word piece) := by
  cases piece with
  | rule r => exact addRule_relocate f d p r
  | bar =>
    unfold addPiece
    cases hbrackets : d.brackets with
    | nil => simpa [relocate, hbrackets] using finishAlternative_relocate f d p
    | cons b outer => simp [relocate, hbrackets]
  | opening kind => rfl
  | closing kind => exact closeBracket_relocate f d p word kind

theorem finish_relocate (g : Grammar) :
    (d.relocate f).finish (f p) g = relocated f id (d.finish p g) := by
  unfold finish
  cases hbrackets : d.brackets with
  | cons b outer => simp [relocate, OpenBracket.relocate, hbrackets]
  | nil =>
    have hnone : (d.relocate f).brackets = [] := by simp [relocate, hbrackets]
    simp only [hnone, finishAlternative_relocate]
    refine relocated_bind f (fun d' => ?_) _
    cases hinsert : g.insert d'.item <;> simp [relocate, hinsert]

end Draft

namespace Reader

variable (r : Reader) (p : Position)

theorem complete_relocate :
    (r.relocate f).complete (f p) = relocated f id (r.complete p) := by
  unfold complete
  cases hdraft : r.draft with
  | none => simp [relocate, hdraft]
  | some d => simpa [relocate, hdraft] using d.finish_relocate f p r.grammar

/-- A clause at another place is read in the same way. -/
theorem step_relocate (c : Clause) :
    (r.relocate f).step (f p) (c.relocate f) = relocated f (relocate f) (r.step p c) := by
  cases c with
  | item name kind =>
    unfold step
    simp only [Clause.relocate]
    rw [complete_relocate]
    refine relocated_bind f (fun g => ?_) _
    rfl
  | start name => rfl
  | body word piece =>
    obtain ⟨g, draft, start⟩ := r
    cases draft with
    | none => rfl
    | some d =>
      by_cases himported : d.item.isImported = true
      · simp [step, Clause.relocate, relocate, Draft.relocate, himported]
      · have hdraft : ¬(d.relocate f).item.isImported = true := himported
        simp only [step, Clause.relocate, relocate, Option.map_some, if_neg himported,
          if_neg hdraft]
        refine relocated_bind f (fun a => ?_) _
        rw [id, Draft.addPiece_relocate]
        refine relocated_bind f (fun d' => ?_) _
        rfl
  | faulty e => rfl

theorem finish_relocate :
    (r.relocate f).finish (f p) = relocated f id (r.finish p) := by
  unfold finish
  rw [complete_relocate]
  refine relocated_bind f (fun g => ?_) _
  cases hstart : r.start with
  | none => simp [relocate, hstart]
  | some chosen =>
    obtain ⟨q, name⟩ := chosen
    cases hset : g.setStart name <;> simp [relocate, hstart, hset]

theorem readAll_relocate (cs : List (Position × Clause)) :
    (r.relocate f).readAll (cs.map (Prod.map f (Clause.relocate f))) =
      relocated f (relocate f) (r.readAll cs) := by
  induction cs generalizing r with
  | nil => rfl
  | cons first cs ih =>
    obtain ⟨p, c⟩ := first
    rw [List.map_cons, Prod.map_apply, readAll, step_relocate, readAll]
    exact relocated_bind f ih _

end Reader

/-- Reading words at other places only moves errors. -/
theorem readWords_relocate (ws : List (Position × Word)) (stop : Position) :
    readWords (ws.map (Prod.map f id)) (f stop) = relocated f id (readWords ws stop) := by
  have hread : Reader.empty.readAll (clauses (ws.map (Prod.map f id))) =
      relocated f (Reader.relocate f) (Reader.empty.readAll (clauses ws)) := by
    rw [clauses_relocate]
    exact Reader.empty.readAll_relocate f (clauses ws)
  unfold readWords
  rw [hread]
  exact relocated_bind f (fun r => r.finish_relocate f stop) _

/-- The same words at any places give the same grammar, or the same fault. -/
theorem readWords_eq_of_map_snd_eq {ws ws' : List (Position × Word)}
    (h : ws'.map Prod.snd = ws.map Prod.snd) (stop stop' : Position) :
    (readWords ws' stop').mapError SyntaxError.fault =
      (readWords ws stop).mapError SyntaxError.fault := by
  -- All words are put at one place.
  have hplace : ∀ (ws : List (Position × Word)) (stop : Position),
      (readWords ws stop).mapError SyntaxError.fault =
        (readWords ((ws.map Prod.snd).map (Prod.mk .start)) .start).mapError SyntaxError.fault := by
    intro ws stop
    have hwords : (ws.map Prod.snd).map (Prod.mk Position.start) =
        ws.map (Prod.map (fun _ => Position.start) id) := by
      simp [Function.comp_def, Prod.map]
    rw [hwords, readWords_relocate (fun _ => .start) ws stop]
    cases readWords ws stop <;> rfl
  rw [hplace ws' stop', hplace ws stop, h]

end BranchLR.GrammarText
