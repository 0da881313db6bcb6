import BranchLR.Search.Step

/-!
# Candidates and the actions of a table

Looking up candidates and comparing a production with the stack succeed exactly when every guard and
every rule that is asked is flat. The results are then plain list expressions, and every candidate
is an action that the table offers.
-/

namespace BranchLR

variable [RegexLibrary]

/-- The actions that stand anywhere in a table. -/
inductive Table.Offers (t : Table) (a : Action) : Prop
  | initial (hinitial : a ∈ t.initial)
  | guarded {number : Nat} {row : Row} {entry : Rule × List Action}
      (hrow : t.row? number = some row) (hentry : entry ∈ row.entries) (haction : a ∈ entry.2)

/-- The actions of a row, guard by guard. -/
def Row.actions (row : Row) : List Action := row.entries.flatMap Prod.snd

/-- The actions of a table whose rows are numbered in their order can be listed. -/
theorem Table.offers_ofRows_iff {initial : List Action} {rows : Array Row} {acceptItem : String}
    {a : Action} :
    (Table.ofRows initial rows acceptItem).Offers a ↔
      a ∈ initial ++ rows.toList.flatMap Row.actions := by
  simp only [List.mem_append, List.mem_flatMap, Array.mem_toList_iff, Row.actions]
  constructor
  · rintro (hinitial | ⟨hrow, hentry, haction⟩)
    · exact .inl hinitial
    · exact .inr ⟨_, Array.mem_of_getElem? hrow, _, hentry, haction⟩
  · rintro (hinitial | ⟨row, hrow, entry, hentry, haction⟩)
    · exact .initial hinitial
    · obtain ⟨number, hnumber⟩ := Array.getElem?_of_mem hrow
      exact .guarded hnumber hentry haction

/-- All candidates of an entry, in order. -/
def Entry.candidates (e : Entry) : List Action := e.tried.reverse ++ e.untried

/-- A snapshot advances when its top entry has a candidate behind the selected one. -/
theorem Snapshot.advance?_eq_some_iff {s next : Snapshot} :
    s.advance? = some next ↔ ∃ a b rest, s.top.untried = a :: b :: rest ∧
      next = { s with top := { s.top with tried := a :: s.top.tried, untried := b :: rest } } := by
  unfold Snapshot.advance? Entry.advance?
  constructor
  · intro h
    obtain ⟨top, htop, rfl⟩ := Option.map_eq_some_iff.1 h
    split at htop
    next a b rest huntried =>
      cases htop
      exact ⟨a, b, rest, huntried, rfl⟩
    next => cases htop
  · rintro ⟨a, b, rest, huntried, rfl⟩
    simp [huntried]

theorem Rule.check_of_isFlat {rule : Rule} (hflat : rule.isFlat = true) (g : Grammar)
    (symbol : Symbol) : rule.check g symbol = .ok (rule.recognises g symbol) := by
  simp [Rule.check, hflat]

theorem Rule.check_eq_ok_iff {rule : Rule} {g : Grammar} {symbol : Symbol} {b : Bool} :
    rule.check g symbol = .ok b ↔ rule.isFlat = true ∧ rule.recognises g symbol = b := by
  unfold Rule.check
  split
  next hflat => simp [hflat]
  next hflat => simp [hflat]

namespace Row

variable {g : Grammar} {symbol : Symbol} {row : Row}

/-- The candidate lists of the guards that stand for a symbol. -/
def matching (g : Grammar) (symbol : Symbol) (entries : List (Rule × List Action)) :
    List (List Action) :=
  (entries.filter fun entry => entry.1.recognises g symbol).map Prod.snd

/-- Flat guards can all be asked. -/
theorem groups_of_isFlat {entries : List (Rule × List Action)}
    (hflat : ∀ entry ∈ entries, entry.1.isFlat = true) :
    groups g symbol entries = .ok (matching g symbol entries) := by
  induction entries with
  | nil => rfl
  | cons entry rest ih =>
    obtain ⟨guard, actions⟩ := entry
    have hguard : guard.isFlat = true := hflat _ List.mem_cons_self
    have hrest := ih fun e he => hflat e (List.mem_cons_of_mem _ he)
    simp only [groups, Rule.check_of_isFlat hguard, hrest, bind, Except.bind, matching,
      List.filter_cons]
    split <;> rfl

/-- Only flat guards can all be asked. -/
theorem isFlat_of_groups {entries : List (Rule × List Action)} {lists : List (List Action)}
    (h : groups g symbol entries = .ok lists) : ∀ entry ∈ entries, entry.1.isFlat = true := by
  induction entries generalizing lists with
  | nil => simp
  | cons entry rest ih =>
    obtain ⟨guard, actions⟩ := entry
    unfold groups at h
    cases hcheck : guard.check g symbol with
    | error e => simp [hcheck, bind, Except.bind] at h
    | ok here =>
      cases hrest : groups g symbol rest with
      | error e => simp [hcheck, hrest, bind, Except.bind] at h
      | ok others =>
        intro e he
        rcases List.mem_cons.1 he with rfl | he
        · exact (Rule.check_eq_ok_iff.1 hcheck).1
        · exact ih hrest e he

/-- Candidates are found exactly when every guard of the row is flat, and they are then those of the
guards that stand for the symbol, each list once. -/
theorem candidates_eq_ok_iff {actions : List Action} :
    row.candidates g symbol = .ok actions ↔ (∀ entry ∈ row.entries, entry.1.isFlat = true) ∧
      (matching g symbol row.entries).eraseDups.flatten = actions := by
  constructor
  · intro h
    unfold candidates at h
    cases hgroups : groups g symbol row.entries with
    | error e => simp [hgroups, bind, Except.bind] at h
    | ok lists =>
      have hflat := isFlat_of_groups hgroups
      rw [groups_of_isFlat hflat] at hgroups h
      exact ⟨hflat, by simpa [bind, Except.bind] using h⟩
  · rintro ⟨hflat, rfl⟩
    simp [candidates, groups_of_isFlat hflat, bind, Except.bind]

/-- A candidate comes from a guard that stands for the symbol. -/
theorem mem_of_candidates {actions : List Action} {a : Action}
    (h : row.candidates g symbol = .ok actions) (ha : a ∈ actions) :
    ∃ entry ∈ row.entries, entry.1.recognises g symbol = true ∧ a ∈ entry.2 := by
  obtain ⟨-, rfl⟩ := candidates_eq_ok_iff.1 h
  obtain ⟨list, hlist, ha⟩ := List.mem_flatten.1 ha
  obtain ⟨entry, hentry, rfl⟩ := List.mem_map.1 (List.mem_eraseDups.1 hlist)
  obtain ⟨hmem, hmatch⟩ := List.mem_filter.1 hentry
  exact ⟨entry, hmem, hmatch, ha⟩

/-- The candidates of a guard that stands for the symbol are found side by side. -/
theorem candidates_contains {entry : Rule × List Action}
    (hflat : ∀ entry ∈ row.entries, entry.1.isFlat = true) (hentry : entry ∈ row.entries)
    (hmatch : entry.1.recognises g symbol = true) :
    ∃ before after, row.candidates g symbol = .ok (before ++ entry.2 ++ after) := by
  have hlist : entry.2 ∈ (matching g symbol row.entries).eraseDups :=
    List.mem_eraseDups.2 (List.mem_map.2 ⟨entry, List.mem_filter.2 ⟨hentry, hmatch⟩, rfl⟩)
  obtain ⟨before, after, hsplit⟩ := List.append_of_mem hlist
  refine ⟨before.flatten, after.flatten, candidates_eq_ok_iff.2 ⟨hflat, ?_⟩⟩
  rw [hsplit]
  simp

end Row

theorem Table.offers_of_candidates {t : Table} {g : Grammar} {number : Nat} {row : Row}
    {symbol : Symbol} {actions : List Action} (hrow : t.row? number = some row)
    (h : row.candidates g symbol = .ok actions) : ∀ a ∈ actions, t.Offers a := by
  intro a ha
  obtain ⟨entry, hentry, -, ha⟩ := Row.mem_of_candidates h ha
  exact .guarded hrow hentry ha

/-- Comparing flat rules with the stack always gives an answer. -/
theorem covers_of_isFlat {g : Grammar} {rules : List Rule} (hflat : ∀ rule ∈ rules, rule.isFlat = true)
    (stack : List Entry) : ∃ fits, covers g rules stack = .ok fits := by
  induction rules generalizing stack with
  | nil => exact ⟨true, by simp [covers]⟩
  | cons rule rules ih =>
    cases stack with
    | nil => exact ⟨true, by simp [covers]⟩
    | cons entry stack =>
      have hrule : rule.isFlat = true := hflat _ List.mem_cons_self
      obtain ⟨fits, hfits⟩ := ih (fun r hr => hflat r (List.mem_cons_of_mem _ hr)) stack
      simp only [covers, Rule.check_of_isFlat hrule, bind, Except.bind, hfits]
      split
      · exact ⟨fits, rfl⟩
      · exact ⟨false, rfl⟩

/-- A comparison that fits accepts the rule on top and then the rules below it. -/
theorem covers_cons_eq_true_iff {g : Grammar} {rule : Rule} {rules : List Rule} {e : Entry}
    {stack : List Entry} : covers g (rule :: rules) (e :: stack) = .ok true ↔
      rule.isFlat = true ∧ rule.recognises g e.symbol = true ∧ covers g rules stack = .ok true := by
  simp only [covers, bind]
  cases hcheck : rule.check g e.symbol with
  | error failure =>
    simp only [Except.bind, reduceCtorEq, false_iff]
    rintro ⟨hflat, -⟩
    simp [Rule.check_of_isFlat hflat] at hcheck
  | ok here =>
    obtain ⟨hflat, rfl⟩ := Rule.check_eq_ok_iff.1 hcheck
    cases hhere : rule.recognises g e.symbol <;> simp [Except.bind, hflat]

end BranchLR
