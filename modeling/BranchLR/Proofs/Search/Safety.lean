import BranchLR.Proofs.Search.Representation

/-!
# Tables that keep their promises

A table keeps its promises when every row it names exists and all its guards and the rules of all
its productions are flat. A search over such a table never breaks off: it accepts, rejects, reaches
its step limit, or goes on.
-/

namespace BranchLR

variable [RegexLibrary]

/-- A table that names only rows it has, and whose guards and rules are flat. -/
structure Table.WellFormed (t : Table) : Prop where
  isSome_row? : ∀ number, t.Offers (.shift number) → (t.row? number).isSome = true
  flat_guards : ∀ number row, t.row? number = some row →
    ∀ entry ∈ row.entries, entry.1.isFlat = true
  flat_rules : ∀ production, t.Reduces production → ∀ rule ∈ production.rules, rule.isFlat = true

/-- Whether an action names a row of the table and has flat rules. -/
def Action.keepsPromise (t : Table) : Action → Bool
  | shift number => (t.row? number).isSome
  | reduce production => production.rules.all Rule.isFlat
  | accept => true

/-- If the rows of a table are numbered in their order, its promises can be checked action by action
and guard by guard. -/
theorem Table.wellFormed_ofRows_iff {initial : List Action} {rows : Array Row}
    {acceptItem : String} :
    (Table.ofRows initial rows acceptItem).WellFormed ↔
      (∀ a ∈ initial ++ rows.toList.flatMap Row.actions,
        a.keepsPromise (Table.ofRows initial rows acceptItem) = true) ∧
      ∀ row ∈ rows.toList, ∀ entry ∈ row.entries, entry.1.isFlat = true := by
  simp only [← @offers_ofRows_iff _ initial rows acceptItem, Array.mem_toList_iff]
  constructor
  · rintro ⟨hrows, hguards, hrules⟩
    refine ⟨fun a ha => ?_, fun row hrow => ?_⟩
    · cases a with
      | shift number => exact hrows number ha
      | reduce production => simpa [Action.keepsPromise] using hrules production ha
      | accept => rfl
    · obtain ⟨number, hnumber⟩ := Array.getElem?_of_mem hrow
      exact hguards number row hnumber
  · rintro ⟨hactions, hguards⟩
    refine ⟨fun number h => hactions _ h, fun number row hrow => ?_, fun production h => ?_⟩
    · exact hguards row (Array.mem_of_getElem? hrow)
    · simpa [Action.keepsPromise] using hactions _ h

/-- The selected action of an entry is one of its candidates. -/
theorem Entry.selected_mem {e : Entry} {a : Action} (h : e.selected = some a) :
    a ∈ e.candidates :=
  List.mem_append_right _ (List.mem_of_head? h)

/-- The row of an entry is named by a shift among its candidates. -/
theorem Entry.shift_mem_of_row? {e : Entry} {row : Nat} (h : e.row? = some row) :
    .shift row ∈ e.candidates := by
  obtain ⟨a, ha, hrow⟩ := List.exists_of_findSome?_eq_some h
  have hshift : a = .shift row := by cases a <;> simp_all [Action.row?]
  rw [← hshift]
  rcases List.mem_append.1 ha with ha | ha
  · exact selected_mem (Option.mem_toList.1 ha)
  · exact List.mem_append_left _ (List.mem_reverse.2 ha)

namespace Problem

variable {p : Problem} {s : Snapshot} {o : Outcome}

/-- In a table that keeps its promises candidates are always found. -/
theorem candidates_ne_error (h : p.table.WellFormed) {number : Nat} {row : Row} {symbol : Symbol}
    {e : ParseFailure} (hrow : p.table.row? number = some row) :
    row.candidates p.grammar symbol ≠ .error e := by
  have hflat := h.flat_guards number row hrow
  rw [Row.candidates_eq_ok_iff.2 ⟨hflat, rfl⟩]
  exact nofun

/-- A forest that stands for a stack is long enough for every reduction that fits the stack. -/
theorem Sound.reduce?_ne_none (h : p.Sound s) {production : Production} {base : Entry}
    {below : List Entry} (hbase : s.stack.drop production.rules.length = base :: below) :
    s.forest.reduce? production.item production.rules.length ≠ none := by
  have hlength := h.represents.length_eq
  have hdrop := congrArg List.length hbase
  simp only [List.length_drop, List.length_cons] at hdrop
  have htake : (s.forest.newestFirst.take production.rules.length).length =
      production.rules.length := by
    rw [List.length_take]
    omega
  simp [Forest.reduce?, htake]

/-- No action of a sound snapshot breaks a promise that the table keeps. -/
theorem Sound.not_breaks (h : p.Sound s) (htable : p.table.WellFormed) {e : ParseFailure} :
    ¬p.Breaks s e := by
  intro hbreaks
  have hselected {a : Action} (ha : s.top.selected = some a) : p.table.Offers a :=
    h.offered s.top List.mem_cons_self a (Entry.selected_mem ha)
  cases hbreaks with
  | shiftRow hshift hrow =>
    have hsome := htable.isSome_row? _ (hselected hshift)
    simp [hrow] at hsome
  | shiftGuard _ hrow hactions => exact candidates_ne_error htable hrow hactions
  | rule hreduce hcovers =>
    have hflat := htable.flat_rules _ (hselected hreduce)
    obtain ⟨fits, hfits⟩ := covers_of_isFlat (g := p.grammar)
      (fun rule hrule => hflat rule (List.mem_reverse.1 hrule)) s.stack
    cases hfits.symm.trans hcovers
  | @reduceRow _ base below _ _ hbase hbaseRow hrow =>
    have hmem : base ∈ s.stack := List.mem_of_mem_drop (hbase ▸ List.mem_cons_self)
    have hsome := htable.isSome_row? _ (h.offered base hmem _ (Entry.shift_mem_of_row? hbaseRow))
    simp [hrow] at hsome
  | reduceGuard _ hrow hactions => exact candidates_ne_error htable hrow hactions
  | roots _ hbase _ hforest => exact h.reduce?_ne_none hbase hforest

theorem Sound.attempt_ne_error (h : p.Sound s) (htable : p.table.WellFormed) {e : ParseFailure} :
    p.attempt s ≠ .error e := by
  intro hattempt
  have hexplained := p.attempt_explained s
  rw [hattempt] at hexplained
  cases hexplained with
  | broken hbreaks => exact h.not_breaks htable hbreaks

/-- A search over a table that keeps its promises stops with a tree or because nothing is left. -/
theorem Stops.cases_of_wellFormed {r : Run} (hstops : p.Stops r o) (hr : p.Reachable r)
    (htable : p.table.WellFormed) :
    (∃ f, o = .ok f) ∨ ∃ e, o = .error e ∧ e.isRejection = true := by
  cases hstops with
  | failure hfailure => exact absurd hfailure (hr.sound.1.attempt_ne_error htable)
  | acceptance => exact .inl ⟨_, rfl⟩
  | rejection => exact .inr ⟨_, rfl, isRejection_rejection p _⟩

end Problem

end BranchLR
