import BranchLR.Proofs.Search.Rejections
import BranchLR.Proofs.Search.Soundness

/-!
# Stack and forest in lock-step

Read from the bottom up, the entries of a stack and the roots of its forest go together. Above the
bottom every entry has one root, and the root shows the entry's symbol. The places of the entries
never move back and never pass the end of the input, and the tokens below the roots of the first
entries are exactly the tokens before the place of the last of them. The table has no say in this:
it is kept by every push, and a snapshot that is returned to brings both its stack and its forest.
-/

namespace BranchLR

/-- The root that shows a symbol; nothing shows the bottom of the stack. -/
inductive Symbol.ShownBy : Symbol → Node → Prop
  | terminal (t : Token) : ShownBy (.terminal t) (.leaf t.text)
  | endOfInput : ShownBy .endOfInput .endOfInput
  | reduced (item : String) (children : List Node) :
      ShownBy (.reduced item) (.parent item children)

theorem Node.leavesAll_concat (ns : List Node) (n : Node) :
    leavesAll (ns ++ [n]) = leavesAll ns ++ n.leaves := by
  induction ns with
  | nil => simp [leavesAll]
  | cons m ns ih => simp [leavesAll, ih]

namespace TokenStream

variable {input : TokenStream}

/-- The texts before a place. -/
theorem texts_zero (input : TokenStream) (place : Nat) :
    input.texts 0 place = (input.tokens.toList.take place).map Token.text := by
  simp [texts]

theorem remaining_add {place : Nat} (h : place ≤ input.size) :
    input.remaining place + place = input.size :=
  Nat.sub_add_cancel h

end TokenStream

section Library

variable [RegexLibrary]

/-- Entries from the bottom up that go together with roots, the oldest first. -/
structure LockStep (input : TokenStream) (entries : List Entry) (roots : List Node) : Prop where
  length_eq : entries.length = roots.length + 1
  shown : ∀ i e n, entries[i + 1]? = some e → roots[i]? = some n → e.symbol.ShownBy n
  places : entries.Pairwise fun lower upper => lower.place ≤ upper.place
  /-- No place passes the end of the input, so what remains behind it is never less than nothing. -/
  remaining_add : ∀ e ∈ entries, input.remaining e.place + e.place = input.size
  leaves : ∀ i e, entries[i]? = some e →
    Node.leavesAll (roots.take i) = (input.tokens.toList.take e.place).map Token.text

namespace LockStep

variable {input : TokenStream} {entries : List Entry} {roots : List Node} {e top : Entry} {n : Node}

/-- The bottom of the stack goes together with the empty forest. -/
theorem bottom (hplace : e.place = 0) : LockStep input [e] [] := by
  refine ⟨rfl, nofun, List.pairwise_singleton _ _, ?_, ?_⟩
  · intro e' he'
    obtain rfl := List.mem_singleton.1 he'
    exact TokenStream.remaining_add (by omega)
  · intro i e' he'
    obtain rfl := List.mem_singleton.1 (List.mem_of_getElem? he')
    simp [hplace, Node.leavesAll]

/-- An entry above the top, with a root over the tokens between the two, keeps both together. -/
theorem push (h : LockStep input (entries ++ [top]) roots) (hshown : e.symbol.ShownBy n)
    (hle : top.place ≤ e.place) (hsize : e.place ≤ input.size)
    (hleaves : n.leaves = input.texts top.place e.place) :
    LockStep input (entries ++ [top] ++ [e]) (roots ++ [n]) := by
  have hlength : entries.length = roots.length := by simpa using h.length_eq
  -- A number either belongs to what was there before, or to the new entry and its root.
  have hnew {i : Nat} {e' : Entry} (he' : (entries ++ [top] ++ [e])[i]? = some e') :
      (entries ++ [top])[i]? = some e' ∧ i ≤ roots.length ∨ e' = e ∧ i = roots.length + 1 := by
    by_cases hi : i < (entries ++ [top]).length
    · rw [List.getElem?_append_left hi] at he'
      simp only [List.length_append, List.length_singleton] at hi
      exact .inl ⟨he', by omega⟩
    · rw [List.getElem?_append_right (by omega)] at he'
      obtain ⟨hlt, heq⟩ := List.getElem?_eq_some_iff.1 he'
      simp only [List.length_append, List.length_singleton] at hi hlt
      exact .inr ⟨by simpa using heq.symm, by omega⟩
  have hplaces : ∀ lower ∈ entries ++ [top], lower.place ≤ top.place := by
    intro lower hlower
    rcases List.mem_append.1 hlower with hlower | hlower
    · exact (List.pairwise_append.1 h.places).2.2 lower hlower top List.mem_cons_self
    · exact (List.mem_singleton.1 hlower) ▸ Nat.le_refl _
  refine ⟨by simp [hlength], ?_, ?_, ?_, ?_⟩
  · intro i e' n' he' hn'
    rcases hnew he' with ⟨hold, hi⟩ | ⟨rfl, hi⟩
    · rw [List.getElem?_append_left (by omega)] at hn'
      exact h.shown i e' n' hold hn'
    · obtain rfl : i = roots.length := by omega
      obtain rfl : n = n' := by simpa using hn'
      exact hshown
  · rw [List.pairwise_append]
    refine ⟨h.places, List.pairwise_singleton _ _, ?_⟩
    intro lower hlower upper hupper
    obtain rfl := List.mem_singleton.1 hupper
    exact Nat.le_trans (hplaces lower hlower) hle
  · intro e' he'
    rcases List.mem_append.1 he' with hold | hold
    · exact h.remaining_add e' hold
    · obtain rfl := List.mem_singleton.1 hold
      exact TokenStream.remaining_add hsize
  · intro i e' he'
    rcases hnew he' with ⟨hold, hi⟩ | ⟨rfl, hi⟩
    · rw [List.take_append_of_le_length hi]
      exact h.leaves i e' hold
    · have htop := h.leaves roots.length top (by simp [← hlength])
      rw [List.take_length] at htop
      have hall : (roots ++ [n]).take i = roots ++ [n] := List.take_of_length_le (by simp [hi])
      rw [hall, Node.leavesAll_concat, htop, hleaves, ← TokenStream.texts_zero,
        TokenStream.texts_append (Nat.zero_le _) hle, TokenStream.texts_zero]

end LockStep

namespace Problem

variable {p : Problem} {r : Run}

/-- The root of a symbol shows it and covers the tokens of its range. -/
theorem Stands.shownBy {symbol : Symbol} {i j : Nat} {n : Node} (h : p.Stands symbol i j n) :
    symbol.ShownBy n ∧ i ≤ j ∧ n.leaves = p.input.texts i j := by
  cases h with
  | @terminal _ t hahead =>
    refine ⟨.terminal t, Nat.le_succ i, ?_⟩
    rw [Node.leaves, TokenStream.texts_of_ahead hahead]
  | endOfInput =>
    refine ⟨.endOfInput, Nat.le_refl _, ?_⟩
    rw [Node.leaves, TokenStream.texts_self]
  | reduced _ hchildren =>
    obtain ⟨hle, hleaves⟩ := hchildren.leaves_eq
    exact ⟨.reduced _ _, hle, by rw [Node.leaves, hleaves]⟩

/-- A stack and the forest that stands for it go together. -/
theorem Represents.lockStep {stack : List Entry} {ns : List Node} (h : p.Represents stack ns) :
    LockStep p.input stack.reverse ns.reverse := by
  induction h with
  | bottom _ hplace => exact .bottom hplace
  | push hbelow hstands ih =>
    obtain ⟨hshown, hle, hleaves⟩ := hstands.shownBy
    have hsize := hstands.le_size hbelow.place_le
    rw [List.reverse_cons] at ih
    rw [List.reverse_cons, List.reverse_cons, List.reverse_cons]
    exact ih.push hshown hle hsize hleaves

/-- **Stack and forest move in lock-step.** Whatever the table is and however often the search has
returned, the stack and the forest that it works on go together, and so do those of every
checkpoint. So no search ever asks for more roots than its forest holds. -/
theorem moves_in_lockStep (p : Problem) :
    (∀ r, p.Reachable r → ∀ s ∈ r.current :: r.saved.newestFirst,
      LockStep p.input s.stack.reverse s.forest.roots) ∧
    ∀ limit label wanted held, ¬p.Ends limit (.error (.shortForest label wanted held)) := by
  refine ⟨?_, ?_⟩
  · intro r hr s hs
    have hsound : p.Sound s := by
      obtain ⟨hcurrent, hsaved⟩ := hr.sound
      rcases List.mem_cons.1 hs with rfl | hs
      · exact hcurrent
      · exact hsaved s hs
    exact hsound.represents.lockStep
  · intro limit label wanted held h
    rcases h.cases with ⟨n, -, heq⟩ | ⟨r, hr, hstops⟩
    · cases heq
    · generalize ho : (.error (.shortForest label wanted held) : Outcome) = o at hstops
      cases hstops with
      | failure hfailure =>
        cases ho
        rcases hr.sound.1.missingRow_or_unexpandedGuard hfailure with ⟨row, heq⟩ | ⟨guard, heq⟩
        · cases heq
        · cases heq
      | acceptance => cases ho
      | rejection =>
        have hrejection := isRejection_rejection p (lookedAt r.current r.furthest)
        rw [← Except.error.inj ho] at hrejection
        cases hrejection

end Problem

end Library

namespace Problem

/-- After three steps the search that had to return from a dead end has shifted its only token, and
its checkpoint is the bottom of the stack. -/
theorem moves_in_lockStep_detour :
    ∃ r, detour.advance 3 detour.start = .running r ∧
      LockStep detour.input r.current.stack.reverse r.current.forest.roots ∧
      r.current.forest.roots = [.leaf "x"] ∧
      ∀ s ∈ r.saved.newestFirst, LockStep detour.input s.stack.reverse s.forest.roots :=
  have h := (moves_in_lockStep detour).1 _ ⟨3, rfl⟩
  ⟨_, rfl, h _ List.mem_cons_self, rfl, fun s hs => h s (List.mem_cons_of_mem _ hs)⟩

end Problem

end BranchLR
