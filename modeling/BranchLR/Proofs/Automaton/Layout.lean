import BranchLR.Proofs.Automaton.Canonical
import BranchLR.Proofs.Search.Termination

/-!
# The layout of candidates

The candidates of a state stand in a fixed order: to go on, then the reductions, then to accept.
A state is never without any, since each of its dotted productions expects a symbol or is complete.
The production of nothing is complete as soon as it is predicted, and then the symbol that predicts
it is still expected. Different guards of a row lead to states with different candidates: a
production that is complete behind both would have to end with both guards, and a state that goes on
names its own row. So a symbol that several guards stand for finds the candidates of all of them.
-/

namespace BranchLR

/-- A list without repetitions is left as it is. -/
theorem eraseDups_eq_self {α : Type} [BEq α] [LawfulBEq α] {l : List α} (h : l.Nodup) :
    l.eraseDups = l := by
  induction l with
  | nil => rfl
  | cons a l ih =>
    obtain ⟨ha, hl⟩ := List.nodup_cons.1 h
    have hfilter : l.filter (fun b => !b == a) = l := by
      refine List.filter_eq_self.2 fun b hb => ?_
      have hne : b ≠ a := fun heq => ha (heq ▸ hb)
      simpa using hne
    rw [List.eraseDups_cons, hfilter, ih hl]

section Library

variable [RegexLibrary]

/-- Candidates in the order of a built table: at most one shift, which is the first, no reduction
twice, and at most one acceptance, which is the last. The production of nothing is never the only
way to go on. -/
structure LaidOut (actions : List Action) : Prop where
  ne_nil : actions ≠ []
  nodup : actions.Nodup
  shift_first : ∀ row, .shift row ∈ actions →
    ∃ rest, actions = .shift row :: rest ∧ ∀ other, .shift other ∉ rest
  accept_last : .accept ∈ actions → ∃ front, actions = front ++ [.accept] ∧ .accept ∉ front
  shift_of_empty : ∀ item, .reduce ⟨item, []⟩ ∈ actions → ∃ row, .shift row ∈ actions

/-- A row whose guards and candidate lists are all different, and in which a symbol finds the
candidates of every guard that stands for it. -/
structure Row.LaidOut (row : Row) : Prop where
  candidates : ∀ entry ∈ row.entries, BranchLR.LaidOut entry.2
  distinct : row.entries.Pairwise fun entry other => entry.1 ≠ other.1 ∧ entry.2 ≠ other.2
  undiminished : ∀ g symbol,
    row.candidates g symbol = .ok (matching g symbol row.entries).flatten

/-- Where no two guards have the same candidates, none are dropped. -/
theorem Row.candidates_of_pairwise {row : Row}
    (hflat : ∀ entry ∈ row.entries, entry.1.isFlat = true)
    (h : row.entries.Pairwise fun entry other => entry.2 ≠ other.2) (g : Grammar)
    (symbol : Symbol) : row.candidates g symbol = .ok (matching g symbol row.entries).flatten := by
  have hnodup : (matching g symbol row.entries).Nodup :=
    List.pairwise_map.2 (h.sublist List.filter_sublist)
  rw [candidates_eq_ok_iff, eraseDups_eq_self hnodup]
  exact ⟨hflat, rfl⟩

namespace Automaton

variable {ps : Array Production} {X Y : Rule} {q q' next next' number dot : Nat}

/-- A state has one transition for each symbol. -/
theorem pairwise_transitions {state : State} (h : state ∈ states ps) :
    state.transitions.Pairwise fun edge other => edge.1 ≠ other.1 := by
  rw [(states_linked state h).transitions_eq, moves, List.pairwise_map, List.pairwise_map]
  exact nodup_eraseDups _

/-- The symbol in front of a mark is the one that was read last. -/
theorem Leads.guard_eq (h : Leads ps q X next) (h' : Leads ps q' Y next')
    (hd : Holds ps next ⟨number, dot + 1⟩) (hd' : Holds ps next' ⟨number, dot + 1⟩) : X = Y := by
  obtain ⟨-, hX⟩ := h.holds_before hd
  obtain ⟨-, hY⟩ := h'.holds_before hd'
  exact Option.some.inj (hX.symm.trans hY)

/-- Transitions into the same state read the same symbol. -/
theorem Leads.guard_eq_of_eq (h : Leads ps q X next) (h' : Leads ps q' Y next) : X = Y := by
  obtain ⟨d, hd, hnext⟩ := h.exists_holds
  have hkernel := (h.inKernel_iff.2 ⟨d, hd, hnext, rfl⟩).holds
  exact h.guard_eq h' hkernel hkernel

end Automaton

namespace BuiltTable

open Automaton

variable {ps : Array Production} {start : String} {productions : List Production} {X Y : Rule}
  {q q' next next' : Nat}

/-- Accepting is the last candidate of a state. -/
theorem exists_front_of_accept (h : .accept ∈ following ps q) :
    ∃ front, following ps q = front ++ [.accept] ∧ .accept ∉ front := by
  have haccept : ∃ d, Holds ps q d ∧ d.production = 0 ∧ nextRule ps d = none := by
    rcases following_cases h with ⟨heq, -⟩ | ⟨_, _, _, _, _, _, heq⟩ | ⟨-, haccept⟩
    · cases heq
    · cases heq
    · exact haccept
  obtain ⟨d, ⟨state, hstate, hd⟩, hnumber, hcomplete⟩ := haccept
  have haccepts : accepts ps state = true := by
    simp only [accepts, List.any_eq_true]
    exact ⟨d, hd, by simp [hnumber, hcomplete]⟩
  refine ⟨_, by rw [following_of_state hstate, if_pos haccepts], fun hmem => ?_⟩
  rcases List.mem_append.1 hmem with hmem | hmem
  · split at hmem
    · cases hmem
    · cases List.mem_singleton.1 hmem
  · obtain ⟨_, _, _, _, _, _, heq⟩ := mem_reductions.1 hmem
    cases heq

/-- A state that is entered has candidates. -/
theorem following_ne_nil_of_entered (hq : Entered (numbered start productions) q) :
    following (numbered start productions) q ≠ [] := by
  rcases hq with rfl | ⟨before, X, hleads⟩
  · have hzero : (numbered start productions)[0]? = some ⟨"", [.item start]⟩ := by simp [numbered]
    exact following_ne_nil holds_zero hzero
  · obtain ⟨d, hd, hnext⟩ := hleads.exists_holds
    obtain ⟨production, hproduction, -⟩ := exists_of_nextRule hnext
    have hkernel := hleads.inKernel_iff.2 ⟨d, hd, hnext, rfl⟩
    exact following_ne_nil hkernel.holds hproduction

/-- A state that is entered lays its candidates out in order. -/
theorem laidOut_following (h : productions.Nodup) (hq : Entered (numbered start productions) q) :
    LaidOut (following (numbered start productions) q) := by
  have hcalls := callsFor_following h hq
  refine ⟨following_ne_nil_of_entered hq, hcalls.nodup, fun row hrow => ?_, exists_front_of_accept,
    fun item hreduce => ?_⟩
  · obtain ⟨rfl, X, next, hleads⟩ := (hcalls.shift_iff row).1 hrow
    obtain ⟨d, hd, hnext⟩ := hleads.exists_holds
    obtain ⟨rest, hrest, hnone⟩ := following_eq_shift_cons hd hnext
    exact ⟨rest, hrest, fun other hother => nomatch hnone _ hother⟩
  · obtain ⟨⟨number, dot⟩, hd, hnumber, hproduction, rfl⟩ := (hcalls.reduce_iff _).1 hreduce
    obtain ⟨e, he, hnext⟩ := hd.exists_expecting hq hnumber hproduction
    obtain ⟨rest, hrest, -⟩ := following_eq_shift_cons he hnext
    exact ⟨q, hrest ▸ List.mem_cons_self⟩

/-- Different guards lead to different candidates. -/
theorem guard_eq_of_following_eq (h : productions.Nodup)
    (hX : Leads (numbered start productions) q X next)
    (hY : Leads (numbered start productions) q' Y next')
    (heq : following (numbered start productions) next =
      following (numbered start productions) next') : X = Y := by
  have hlaid := laidOut_following h (.inr ⟨q, X, hX⟩)
  have hcalls := callsFor_following h (.inr ⟨q, X, hX⟩)
  have hcalls' := callsFor_following h (.inr ⟨q', Y, hY⟩)
  rw [← heq] at hcalls'
  -- A shift names the state, so with a shift both guards lead to the same state.
  have hshift : ∀ row, .shift row ∈ following (numbered start productions) next → X = Y := by
    intro row hrow
    obtain ⟨rfl, -⟩ := (hcalls.shift_iff row).1 hrow
    obtain ⟨rfl, -⟩ := (hcalls'.shift_iff row).1 hrow
    exact hX.guard_eq_of_eq hY
  obtain ⟨a, ha⟩ := List.exists_mem_of_ne_nil _ hlaid.ne_nil
  cases a with
  | shift row => exact hshift row ha
  | accept => exact hX.guard_eq hY (hcalls.accept_iff.1 ha) (hcalls'.accept_iff.1 ha)
  | reduce production =>
    obtain ⟨item, rules⟩ := production
    cases rules with
    | nil =>
      obtain ⟨row, hrow⟩ := hlaid.shift_of_empty item ha
      exact hshift row hrow
    | cons rule rules =>
      obtain ⟨⟨i, k⟩, hd, hi, hproduction, hk⟩ := (hcalls.reduce_iff _).1 ha
      obtain ⟨⟨j, l⟩, hd', hj, hproduction', hl⟩ := (hcalls'.reduce_iff _).1 ha
      simp only [List.length_cons] at hi hj hproduction hproduction' hk hl
      obtain rfl := numbered_inj h hi hj hproduction hproduction'
      subst hk
      subst hl
      exact hX.guard_eq hY hd hd'

/-- The rows of the table of flat productions are laid out in order. -/
theorem laidOut_of_row (h : productions.Nodup)
    (hflat : ∀ production ∈ numbered start productions, FlatRules production.rules) {row : Row}
    {q : Nat} (hrow : (tableOf start (numbered start productions)).row? q = some row) :
    row.LaidOut := by
  have hguards := (wellFormed_tableOf hflat).flat_guards q row hrow
  have hdistinct : row.entries.Pairwise fun entry other =>
      entry.1 ≠ other.1 ∧ entry.2 ≠ other.2 := by
    rw [row?_tableOf, Option.map_eq_some_iff] at hrow
    obtain ⟨state, hstate, rfl⟩ := hrow
    refine List.pairwise_map.2 ?_
    refine (pairwise_transitions (List.mem_of_getElem? hstate)).imp_of_mem ?_
    intro edge other hedge hother hne
    have hleads : Leads (numbered start productions) q edge.1 edge.2 := ⟨state, hstate, hedge⟩
    have hleads' : Leads (numbered start productions) q other.1 other.2 := ⟨state, hstate, hother⟩
    exact ⟨hne, fun heq => hne (guard_eq_of_following_eq h hleads hleads' heq)⟩
  refine ⟨fun entry hentry => ?_, hdistinct,
    Row.candidates_of_pairwise hguards (hdistinct.imp fun hne => hne.2)⟩
  obtain ⟨next, hleads, hfollowing⟩ := exists_leads_of_row hrow hentry
  rw [hfollowing]
  exact laidOut_following h (.inr ⟨q, entry.1, hleads⟩)

/-- **The layout of candidates.** A table that is built from a grammar names only rows that it has,
and no guard and no rule of a production is a bracket or the empty match. The initial candidates and
those under every guard are laid out in order, the guards of a row have different candidates, and
none of these are dropped when a symbol is pushed. -/
theorem laidOut_of_withStart {g : Grammar} {built : BuiltTable}
    (h : withStart g start = .ok built) :
    built.table.WellFormed ∧ (∀ production ∈ built.productions, FlatRules production.rules) ∧
      LaidOut built.table.initial ∧
      ∀ number row, built.table.row? number = some row → row.LaidOut := by
  have hflat := (Problem.builtFrom_of_withStart h ⟨#[]⟩ 0).1.flat
  have hproductions : g.productions.Nodup := nodup_eraseDups _
  obtain ⟨rfl, -⟩ := eq_of_withStart h
  refine ⟨wellFormed_tableOf hflat, fun production => Grammar.flatRules_of_mem_productions,
    laidOut_following hproductions (.inl rfl), fun number row hrow => ?_⟩
  exact laidOut_of_row hproductions hflat hrow

end BuiltTable

end Library

namespace BuiltTable

/-- The table of strokes begins with a choice between a token and nothing, and goes on with one
between another token and the end. -/
theorem laidOut_of_withStart_strokes :
    withStart Problem.strokes "S" = .ok Problem.strokesTable ∧
      LaidOut [.shift 0, .reduce ⟨"S", []⟩] ∧
      Row.LaidOut ⟨[(.item "S", [.shift 1, .accept])]⟩ :=
  have hbuilt : withStart Problem.strokes "S" = .ok Problem.strokesTable := by cbv
  have hlaid := (laidOut_of_withStart hbuilt).2.2
  ⟨hbuilt, hlaid.1, hlaid.2 0 _ rfl⟩

end BuiltTable

end BranchLR
