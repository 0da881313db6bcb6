import BranchLR.Grammar

/-!
# Additions to grammars

What the operations that build a grammar do when they succeed: an item joins behind the others, and
a start item is chosen. A grammar is given by its items and its start, as the rest of it are
conditions on these.
-/

namespace BranchLR

/-- Two steps in a row succeed only after the first one has. -/
theorem exists_of_bind_eq_ok {ε α β : Type} {first : Except ε α} {rest : α → Except ε β} {b : β}
    (h : first >>= rest = .ok b) : ∃ a, first = .ok a ∧ rest a = .ok b := by
  cases first with
  | error e => cases h
  | ok a => exact ⟨a, rfl, h⟩

variable [RegexLibrary]

namespace Grammar

variable {g g' : Grammar}

theorem eq_of_items_of_start (hitems : g.items = g'.items) (hstart : g.start = g'.start) :
    g = g' := by
  cases g
  cases g'
  cases hitems
  cases hstart
  rfl

/-- An item joins a grammar of which it may be part, if its name is free. -/
theorem exists_insert_eq_ok {item : Item} (hwell : item.WellFormed) (hfree : item.name ∉ g.names) :
    ∃ g', g.insert item = .ok g' ∧ g'.items = g.items ++ [item] ∧ g'.start = g.start := by
  have himported := hwell.imported_iff
  unfold insert
  rw [dif_neg (fun h => h.2 (himported.1 h.1)), dif_neg (fun h => by simp [himported.2 h.2] at h),
    dif_neg hwell.nonempty, dif_neg hfree]
  exact ⟨_, rfl, rfl, rfl⟩

theorem insert_eq_ok_iff {item : Item} :
    g.insert item = .ok g' ↔ item.WellFormed ∧ item.name ∉ g.names ∧
      g'.items = g.items ++ [item] ∧ g'.start = g.start := by
  constructor
  · intro h
    unfold insert at h
    split at h
    · cases h
    next himported =>
    split at h
    · cases h
    next hmissing =>
    split at h
    · cases h
    next hnonempty =>
    split at h
    · cases h
    next htaken =>
    cases h
    refine ⟨⟨?_, hnonempty⟩, htaken, rfl, rfl⟩
    cases hi : item.isImported <;> simp_all
  · rintro ⟨hwell, hfree, hitems, hstart⟩
    obtain ⟨g₁, hinsert, hitems₁, hstart₁⟩ := exists_insert_eq_ok hwell hfree
    rw [hinsert, eq_of_items_of_start (hitems.trans hitems₁.symm) (hstart.trans hstart₁.symm)]

/-- A grammar of which an item may be part refuses it only if its name is taken. -/
theorem taken_of_insert_eq_error {item : Item} (hwell : item.WellFormed) {e : GrammarError}
    (h : g.insert item = .error e) : e = .duplicateItem item.name ∧ item.name ∈ g.names := by
  have himported := hwell.imported_iff
  unfold insert at h
  rw [dif_neg (fun h => h.2 (himported.1 h.1)), dif_neg (fun h => by simp [himported.2 h.2] at h),
    dif_neg hwell.nonempty] at h
  split at h
  next htaken =>
    cases h
    exact ⟨rfl, htaken⟩
  next => cases h

/-- An item can be chosen as the start when it is defined. -/
theorem setStart_eq_ok_iff {name : String} :
    g.setStart name = .ok g' ↔ name ∈ g.names ∧ g'.items = g.items ∧ g'.start = some name := by
  unfold setStart
  constructor
  · intro h
    split at h
    next hmem =>
      cases h
      exact ⟨hmem, rfl, rfl⟩
    next => cases h
  · rintro ⟨hmem, hitems, hstart⟩
    rw [dif_pos hmem]
    exact congrArg Except.ok (eq_of_items_of_start hitems.symm hstart.symm)

end Grammar

end BranchLR
