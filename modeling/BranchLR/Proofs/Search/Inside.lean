import BranchLR.Proofs.Automaton.Kernels
import BranchLR.Proofs.Search.Completeness
import BranchLR.Proofs.Search.Rejections

/-!
# Searches stay inside the automaton

An entry of the stack does not say which state of the automaton it stands for. Its candidates are
those of several states side by side, one state for each guard that stands for its symbol, and the
selected candidate tells which of the states is meant. Below the top an entry has its shift
selected, or it was the base of an empty reduction, whose state has a shift before all reductions;
either way its row is that of its state. So the states of a stack form a path of the automaton, read
from the bottom, and this path can be followed backwards along the marks of a complete production. A
reduction that is selected over a built table therefore always succeeds.
-/

namespace BranchLR

open Automaton BuiltTable

/-- A cut through a concatenation of lists goes through one of them. -/
theorem exists_of_flatten_eq_append {α : Type} {lists : List (List α)} {a b : List α}
    (h : lists.flatten = a ++ b) (hb : b ≠ []) :
    ∃ list ∈ lists, ∃ before first second after, a = before ++ first ∧ b = second ++ after ∧
      second ≠ [] ∧ list = first ++ second := by
  induction lists generalizing a with
  | nil =>
    have hnil : a ++ b = [] := h.symm
    exact absurd (List.append_eq_nil_iff.1 hnil).2 hb
  | cons head rest ih =>
    -- A cut at the end of the first list is a cut at the beginning of the others.
    have hlater : ∀ a', rest.flatten = a' ++ b → a = head ++ a' →
        ∃ list ∈ head :: rest, ∃ before first second after, a = before ++ first ∧
          b = second ++ after ∧ second ≠ [] ∧ list = first ++ second := by
      intro a' hrest ha
      obtain ⟨list, hlist, before, first, second, after, rfl, hcut⟩ := ih hrest
      refine ⟨list, List.mem_cons_of_mem head hlist, head ++ before, first, second, after, ?_, hcut⟩
      rw [ha, List.append_assoc]
    rw [List.flatten_cons] at h
    rcases List.append_eq_append_iff.1 h with ⟨a', ha, hrest⟩ | ⟨second, hhead, hsecond⟩
    · exact hlater a' hrest ha
    · by_cases hempty : second = []
      · subst hempty
        exact hlater [] (by simpa using hsecond.symm) (by simpa using hhead.symm)
      · exact ⟨head, List.mem_cons_self, [], a, second, rest.flatten, rfl, hsecond, hempty, hhead⟩

section Library

variable [RegexLibrary]

namespace Entry

variable {ps : Array Production} {q : Nat} {e : Entry}

/-- The candidates of a state stand side by side among those of an entry, and the selected one is
among them. -/
def InState (ps : Array Production) (q : Nat) (e : Entry) : Prop :=
  ∃ before first second after, e.tried.reverse = before ++ first ∧ e.untried = second ++ after ∧
    second ≠ [] ∧ following ps q = first ++ second

theorem inState_of_candidates_eq (h : e.candidates = following ps q) (hne : e.untried ≠ []) :
    e.InState ps q :=
  ⟨[], e.tried.reverse, e.untried, [], rfl, (List.append_nil _).symm, hne, h.symm⟩

/-- The selected candidate is one of the state's. -/
theorem InState.exists_selected (h : e.InState ps q) :
    ∃ a ∈ following ps q, e.selected = some a := by
  obtain ⟨before, first, second, after, -, huntried, hne, hfollowing⟩ := h
  obtain ⟨a, rest, rfl⟩ := List.exists_cons_of_ne_nil hne
  refine ⟨a, by simp [hfollowing], ?_⟩
  simp [selected, huntried]

theorem InState.mem_following (h : e.InState ps q) {a : Action} (ha : e.selected = some a) :
    a ∈ following ps q := by
  obtain ⟨b, hb, hselected⟩ := h.exists_selected
  cases ha.symm.trans hselected
  exact hb

/-- A selected shift continues from the state's own row. -/
theorem InState.row?_of_shift (h : e.InState ps q) {row : Nat}
    (hselected : e.selected = some (.shift row)) : row = q ∧ e.row? = some q := by
  obtain ⟨hrow, -⟩ := exists_leads_of_shift (h.mem_following hselected)
  refine ⟨hrow, ?_⟩
  simp [row?, hselected, hrow, List.findSome?_cons, Action.row?]

/-- If the state expects a symbol, its row is found whatever candidate is selected. -/
theorem InState.row?_of_expecting (h : e.InState ps q) {d : Dotted} {X : Rule}
    (hd : Holds ps q d) (hnext : nextRule ps d = some X) : e.row? = some q := by
  obtain ⟨before, first, second, after, htried, huntried, hne, hfollowing⟩ := h
  obtain ⟨a, rest, rfl⟩ := List.exists_cons_of_ne_nil hne
  obtain ⟨others, hothers, hrowless⟩ := following_eq_shift_cons hd hnext
  have htried' : e.tried = first.reverse ++ before.reverse := by
    rw [← List.reverse_append, ← htried, List.reverse_reverse]
  have hselected : e.selected = some a := by simp [selected, huntried]
  have hshift : (Action.shift q).row? = some q := rfl
  rw [row?, hselected, htried', Option.toList_some]
  cases first with
  | nil =>
    have ha : a = .shift q := by
      rw [hothers] at hfollowing
      exact (List.cons.inj hfollowing).1.symm
    simp [ha, hshift]
  | cons b first =>
    rw [hothers] at hfollowing
    obtain ⟨hb, hrest⟩ := List.cons.inj hfollowing
    have ha : a.row? = none := hrowless a (by simp [hrest])
    have hfirst : first.reverse.findSome? Action.row? = none := by
      refine List.findSome?_eq_none_iff.2 fun c hc => hrowless c ?_
      rw [hrest]
      exact List.mem_append_left _ (List.mem_reverse.1 hc)
    simp [ha, ← hb, hfirst, hshift]

end Entry

namespace BuiltTable

variable {ps : Array Production} {start : String} {q : Nat}

/-- The numbered productions besides the first are those that were given numbers. -/
theorem proper_numbered {productions : List Production} :
    Proper (numbered start productions) = (· ∈ productions) := by
  funext production
  refine propext ⟨?_, exists_number⟩
  rintro ⟨number, hnumber, hget⟩
  obtain ⟨i, rfl⟩ := Nat.exists_eq_succ_of_ne_zero hnumber
  exact List.mem_of_getElem? (by simpa [numbered] using hget)

end BuiltTable

namespace Problem

variable {p : Problem} {ps : Array Production} {s next : Snapshot} {q : Nat} {r : Run}

/-- The states that the entries of a stack stand for, both from the top down. The bottom stands for
the first state. Every entry below another one has the row of its state, the symbol above it is one
that a transition of the state is guarded by, and the entry above stands for the state that the
transition leads to. Of every entry the selected candidate is one of those of its state. -/
inductive Inside (p : Problem) (ps : Array Production) : List Entry → List Nat → Prop
  | bottom {e : Entry} (hsymbol : e.symbol = .bottom) (hcandidates : e.candidates = following ps 0)
      (hstate : e.InState ps 0) : Inside p ps [e] [0]
  | push {e below : Entry} {rest : List Entry} {q next : Nat} {qs : List Nat} {X : Rule}
      {guards : Row} (hbelow : Inside p ps (below :: rest) (q :: qs)) (hrow : below.row? = some q)
      (hleads : Leads ps q X next) (hmatch : X.recognises p.grammar e.symbol = true)
      (hguards : p.table.row? q = some guards)
      (hcandidates : guards.candidates p.grammar e.symbol = .ok e.candidates)
      (hstate : e.InState ps next) : Inside p ps (e :: below :: rest) (next :: q :: qs)

theorem Inside.top {e : Entry} {rest : List Entry} {qs : List Nat}
    (h : p.Inside ps (e :: rest) qs) :
    ∃ q older, qs = q :: older ∧ e.InState ps q ∧ Entered ps q := by
  cases h with
  | bottom _ _ hstate => exact ⟨0, [], rfl, hstate, .inl rfl⟩
  | push _ _ hleads _ _ _ hstate => exact ⟨_, _, rfl, hstate, .inr ⟨_, _, hleads⟩⟩

theorem BuiltFrom.wellFormed (hp : p.BuiltFrom ps) : p.table.WellFormed := by
  rw [hp.table_eq]
  exact wellFormed_tableOf hp.flat

/-- The production that starts the automaton is never reduced by. -/
theorem BuiltFrom.proper_of_reduces (hp : p.BuiltFrom ps) {production : Production}
    (h : p.table.Reduces production) : Proper ps production := by
  unfold Table.Reduces at h
  rw [hp.table_eq] at h
  obtain ⟨q, hq⟩ := exists_following_of_offers h
  obtain ⟨d, -, hnumber, -, hproduction⟩ := exists_holds_of_reduce hq
  exact ⟨d.production, hnumber, hproduction⟩

/-- Among the candidates for a symbol every one belongs to a state that a transition on the symbol
leads to. -/
theorem BuiltFrom.exists_inState (hp : p.BuiltFrom ps) {guards : Row} {e : Entry}
    (hguards : p.table.row? q = some guards)
    (hcandidates : guards.candidates p.grammar e.symbol = .ok e.candidates) (hne : e.untried ≠ []) :
    ∃ X next, Leads ps q X next ∧ X.recognises p.grammar e.symbol = true ∧ e.InState ps next := by
  obtain ⟨-, hflatten⟩ := Row.candidates_eq_ok_iff.1 hcandidates
  obtain ⟨list, hlist, before, first, second, after, htried, huntried, hsecond, hcut⟩ :=
    exists_of_flatten_eq_append hflatten hne
  obtain ⟨entry, hentry, rfl⟩ := List.mem_map.1 (List.mem_eraseDups.1 hlist)
  obtain ⟨hmem, hmatch⟩ := List.mem_filter.1 hentry
  rw [hp.table_eq] at hguards
  obtain ⟨next, hleads, hfollowing⟩ := exists_leads_of_row hguards hmem
  exact ⟨entry.1, next, hleads, hmatch, before, first, second, after, htried, huntried, hsecond,
    hfollowing ▸ hcut⟩

/-- A new entry stands for a state that a transition from the state below leads to. -/
theorem Inside.push_new (hp : p.BuiltFrom ps) {below : Entry} {rest : List Entry} {qs : List Nat}
    (h : p.Inside ps (below :: rest) (q :: qs)) (hrow : below.row? = some q) {guards : Row}
    (hguards : p.table.row? q = some guards) {symbol : Symbol} {actions : List Action}
    {place : Nat}
    (hactions : guards.candidates p.grammar symbol = .ok actions) (hne : actions ≠ []) :
    ∃ next, p.Inside ps (⟨symbol, [], actions, place⟩ :: below :: rest) (next :: q :: qs) := by
  let e : Entry := ⟨symbol, [], actions, place⟩
  have hcandidates : guards.candidates p.grammar e.symbol = .ok e.candidates := hactions
  obtain ⟨X, next, hleads, hmatch, hstate⟩ := hp.exists_inState hguards hcandidates hne
  exact ⟨next, .push h hrow hleads hmatch hguards hcandidates hstate⟩

theorem BuiltFrom.following_zero (hp : p.BuiltFrom ps) : p.table.initial = following ps 0 := by
  rw [hp.table_eq]
  rfl

theorem BuiltFrom.inside_root (hp : p.BuiltFrom ps) : p.Inside ps p.root.stack [0] := by
  have hnext : nextRule ps ⟨0, 0⟩ = some (.item p.table.acceptItem) := by
    simp [nextRule, hp.start_eq]
  obtain ⟨rest, hrest, -⟩ := following_eq_shift_cons holds_zero hnext
  have hcandidates : p.root.top.candidates = following ps 0 := hp.following_zero
  have hne : p.root.top.untried ≠ [] := by
    have huntried : p.root.top.untried = following ps 0 := hp.following_zero
    simp [huntried, hrest]
  exact .bottom rfl hcandidates (Entry.inState_of_candidates_eq hcandidates hne)

/-- The next candidate of the top entry stands for a state as well. -/
theorem Inside.advance (hp : p.BuiltFrom ps) {qs : List Nat} (h : p.Inside ps s.stack qs)
    (hadvance : s.advance? = some next) : ∃ qs', p.Inside ps next.stack qs' := by
  obtain ⟨a, b, rest, huntried, rfl⟩ := Snapshot.advance?_eq_some_iff.1 hadvance
  obtain ⟨top, below, forest⟩ := s
  let moved : Entry := { top with tried := a :: top.tried, untried := b :: rest }
  have hsame : moved.candidates = top.candidates := by
    simp [moved, Entry.candidates, show top.untried = a :: b :: rest from huntried]
  have hne : moved.untried ≠ [] := List.cons_ne_nil b rest
  cases h with
  | bottom hsymbol hcandidates =>
    rw [← hsame] at hcandidates
    exact ⟨_, .bottom hsymbol hcandidates (Entry.inState_of_candidates_eq hcandidates hne)⟩
  | push hbelow hrow _ _ hguards hcandidates =>
    rw [← hsame] at hcandidates
    obtain ⟨X, next, hleads, hmatch, hstate⟩ :=
      hp.exists_inState (e := moved) hguards hcandidates hne
    exact ⟨_, .push hbelow hrow hleads hmatch hguards hcandidates hstate⟩

/-- The mark of a production in the state of the top entry is followed backwards: the entries on top
stand for the rules before the mark, and below them the mark stands in front. -/
theorem Inside.trace (hp : p.BuiltFrom ps) {number dot : Nat} {production : Production}
    (hproduction : ps[number]? = some production) {stack : List Entry} {qs : List Nat}
    (h : p.Inside ps stack (q :: qs)) (hd : Holds ps q ⟨number, dot⟩) :
    dot ≤ production.rules.length ∧
      covers p.grammar (production.rules.take dot).reverse stack = .ok true ∧
      ∃ base below q₀ qs₀, stack.drop dot = base :: below ∧
        p.Inside ps (base :: below) (q₀ :: qs₀) ∧
        Holds ps q₀ ⟨number, 0⟩ ∧ (dot = 0 ∧ q₀ = q ∨ base.row? = some q₀) := by
  induction dot generalizing stack q qs with
  | zero =>
    refine ⟨Nat.zero_le _, by simp [covers], ?_⟩
    cases h with
    | bottom hsymbol hcandidates hstate =>
      exact ⟨_, _, _, _, rfl, .bottom hsymbol hcandidates hstate, hd, .inl ⟨rfl, rfl⟩⟩
    | push hbelow hrow hleads hmatch hguards hcandidates hstate =>
      exact ⟨_, _, _, _, rfl, .push hbelow hrow hleads hmatch hguards hcandidates hstate, hd,
        .inl ⟨rfl, rfl⟩⟩
  | succ dot ih =>
    cases h with
    | bottom =>
      have hdot := hd.dot_eq_zero
      cases hdot
    | @push e below rest before _ older X guards hbelow hrow hleads hmatch _ _ _ =>
      obtain ⟨hbefore, hnext⟩ := hleads.holds_before hd
      obtain ⟨-, hcovers, base, bottom, q₀, qs₀, hdrop, hinside, hstart, hbase⟩ := ih hbelow hbefore
      have hrule : production.rules[dot]? = some X := by
        simpa [nextRule, hproduction] using hnext
      obtain ⟨hlt, -⟩ := List.getElem?_eq_some_iff.1 hrule
      have htake : (production.rules.take (dot + 1)).reverse =
          X :: (production.rules.take dot).reverse := by
        rw [List.take_add_one, hrule, Option.toList_some, List.reverse_append,
          List.reverse_singleton, List.singleton_append]
      refine ⟨hlt, ?_, base, bottom, q₀, qs₀, hdrop, hinside, hstart, .inr ?_⟩
      · rw [htake]
        exact covers_cons_eq_true_iff.2 ⟨hp.isFlat_of_nextRule hnext, hmatch, hcovers⟩
      · rcases hbase with ⟨rfl, rfl⟩ | hbase
        · rw [List.drop_zero] at hdrop
          cases hdrop
          exact hrow
        · exact hbase

/-- A selected reduction finds its rules on the stack, and below them a state whose row has
candidates for its item. -/
theorem Inside.reduction (hp : p.BuiltFrom ps) {qs : List Nat} (h : p.Inside ps s.stack qs)
    {production : Production} (hselected : s.top.selected = some (.reduce production)) :
    covers p.grammar production.rules.reverse s.stack = .ok true ∧
      ∃ base below q₀ qs₀ guards actions, s.stack.drop production.rules.length = base :: below ∧
        p.Inside ps (base :: below) (q₀ :: qs₀) ∧ base.row? = some q₀ ∧
        p.table.row? q₀ = some guards ∧
        guards.candidates p.grammar (.reduced production.item) = .ok actions ∧ actions ≠ [] := by
  obtain ⟨q, older, rfl, hstate, -⟩ := h.top
  obtain ⟨⟨number, dot⟩, hd, hnumber, hcomplete, hproduction⟩ :=
    exists_holds_of_reduce (hstate.mem_following hselected)
  obtain ⟨hdot, hcovers, base, below, q₀, qs₀, hdrop, hinside, hstart, hbase⟩ :=
    h.trace hp hproduction hd
  have hlength : dot = production.rules.length := by
    have hnone : production.rules[dot]? = none := by
      simpa [nextRule, hproduction] using hcomplete
    have hle := List.getElem?_eq_none_iff.1 hnone
    omega
  subst hlength
  rw [List.take_length] at hcovers
  obtain ⟨q₁, _, heq, hbaseState, hentered⟩ := hinside.top
  obtain ⟨rfl, rfl⟩ := List.cons.inj heq
  obtain ⟨d, hd, hnext⟩ := hstart.exists_expecting hentered hnumber hproduction
  have hmatch : Rule.recognises p.grammar (.item production.item) (.reduced production.item) =
      true := by simp [Rule.recognises]
  obtain ⟨_, guards, actions, -, hguards, hactions, hne, -⟩ := hp.exists_candidates hd hnext hmatch
  exact ⟨hcovers, base, below, q₀, qs₀, guards, actions, hdrop, hinside,
    hbaseState.row?_of_expecting hd hnext, hguards, hactions, hne⟩

/-- A move keeps a search inside the automaton. -/
theorem Inside.moves (hp : p.BuiltFrom ps) {qs : List Nat} (h : p.Inside ps s.stack qs)
    (hmoves : p.Moves s next) : ∃ qs', p.Inside ps next.stack qs' := by
  cases hmoves with
  | shift hselected hrow _ hactions hne =>
    obtain ⟨q, older, rfl, hstate, -⟩ := h.top
    obtain ⟨rfl, htop⟩ := hstate.row?_of_shift hselected
    obtain ⟨next, hnext⟩ := h.push_new hp htop hrow hactions hne
    exact ⟨_, hnext⟩
  | @reduce production base below row guards actions forest hselected hbase _ hbaseRow hrow hactions
      hne _ =>
    obtain ⟨-, base', below', q₀, qs₀, _, _, hdrop, hinside, hrow₀, -⟩ := h.reduction hp hselected
    rw [hbase] at hdrop
    obtain ⟨rfl, rfl⟩ := List.cons.inj hdrop
    rw [hbaseRow] at hrow₀
    obtain rfl := Option.some.inj hrow₀
    obtain ⟨next, hnext⟩ := hinside.push_new hp hbaseRow hrow hactions hne
    exact ⟨_, hnext⟩

/-- A selected reduction succeeds. -/
theorem Inside.exists_moves (hp : p.BuiltFrom ps) {qs : List Nat} (h : p.Inside ps s.stack qs)
    (hsound : p.Sound s) {production : Production}
    (hselected : s.top.selected = some (.reduce production)) : ∃ next, p.Moves s next := by
  obtain ⟨hcovers, base, below, q₀, qs₀, guards, actions, hdrop, -, hrow, hguards, hactions, hne⟩ :=
    h.reduction hp hselected
  obtain ⟨forest, hforest⟩ := Option.ne_none_iff_exists'.1 (hsound.reduce?_ne_none hdrop)
  exact ⟨_, .reduce hselected hdrop hcovers hrow hguards hactions hne hforest⟩

/-- Every snapshot of a search over a built table is inside the automaton. -/
theorem Reachable.inside (hp : p.BuiltFrom ps) (h : p.Reachable r) :
    (∃ qs, p.Inside ps r.current.stack qs) ∧
      ∀ s ∈ r.saved.newestFirst, ∃ qs, p.Inside ps s.stack qs :=
  h.snapshots (I := fun s => ∃ qs, p.Inside ps s.stack qs) ⟨_, hp.inside_root⟩
    (fun _ _ ⟨_, hinside⟩ hmoves => hinside.moves hp hmoves)
    (fun _ _ ⟨_, hinside⟩ hadvance => hinside.advance hp hadvance)

/-- A problem whose table has been built from its grammar follows the automaton of the grammar's
flat productions. -/
theorem builtFrom_of_table {start : String} {built : BuiltTable}
    (hbuilt : withStart p.grammar start = .ok built) (htable : p.table = built.table) :
    p.BuiltFrom (numbered start built.productions) ∧ built.productions = p.grammar.productions ∧
      p.table.acceptItem = start := by
  obtain ⟨hp, hproductions, hstart⟩ := builtFrom_of_withStart hbuilt p.input p.horizon
  obtain ⟨g, table, input, horizon⟩ := p
  obtain rfl : table = built.table := htable
  rw [hproductions]
  exact ⟨hp, rfl, hstart⟩

/-- **Searches over built tables stay inside the automaton.** In every search that can be reached,
the entries of the stack stand for a path of states from the first one on, and the selected
candidate of the top entry is one of those of its state. So every reduction that is selected
succeeds, and a search ends only with a tree, with a rejection or at its step limit: no row is
missing, no guard or rule is unexpanded, and the forest is never too short. -/
theorem stays_inside {start : String} {built : BuiltTable}
    (hbuilt : withStart p.grammar start = .ok built) (htable : p.table = built.table) :
    (∀ r, p.Reachable r → ∃ qs, p.Inside (numbered start built.productions) r.current.stack qs) ∧
    (∀ r production, p.Reachable r → r.current.top.selected = some (.reduce production) →
      ∃ event next, p.attempt r.current = .ok (.moved event next)) ∧
    ∀ limit o, p.Ends limit o → (∃ f, o = .ok f) ∨ (∃ e, o = .error e ∧ e.isRejection = true) ∨
      ∃ n, limit = some n ∧ o = .error (.stepLimit n) := by
  obtain ⟨hp, -, -⟩ := builtFrom_of_table hbuilt htable
  refine ⟨?_, ?_, ?_⟩
  · intro r hr
    exact (hr.inside hp).1
  · intro r production hr hselected
    obtain ⟨qs, hinside⟩ := (hr.inside hp).1
    obtain ⟨next, hmoves⟩ := hinside.exists_moves hp hr.sound.1 hselected
    obtain ⟨event, hattempt⟩ := hmoves.attempt
    exact ⟨event, next, hattempt⟩
  · intro limit o h
    rcases h.cases with ⟨n, hlimit, ho⟩ | ⟨r, hr, hstops⟩
    · exact .inr (.inr ⟨n, hlimit, ho⟩)
    · rcases hstops.cases_of_wellFormed hr hp.wellFormed with hf | he
      · exact .inl hf
      · exact .inr (.inl he)

end Problem

end Library

namespace Problem

/-- After three steps over an opening that is never closed, the search has returned to the second
token with its reduction selected. -/
theorem stays_inside_unclosed :
    withStart nested "S" = .ok nestedTable ∧
      ∃ r, Problem.advance ⟨nested, nestedTable.table, unclosed, 100⟩ 3
          (Problem.start ⟨nested, nestedTable.table, unclosed, 100⟩) = .running r ∧
        r.current.top.selected = some (.reduce ⟨"S", [.literal "x"]⟩) ∧
        (∃ qs, Problem.Inside ⟨nested, nestedTable.table, unclosed, 100⟩
          (numbered "S" nestedTable.productions) r.current.stack qs) ∧
        ∃ event next, Problem.attempt ⟨nested, nestedTable.table, unclosed, 100⟩ r.current =
          .ok (.moved event next) :=
  have hbuilt : withStart nested "S" = .ok nestedTable := withStart_nested
  have hinside := stays_inside (p := ⟨nested, nestedTable.table, unclosed, 100⟩) hbuilt rfl
  ⟨hbuilt, _, rfl, rfl, hinside.1 _ ⟨3, rfl⟩, hinside.2.1 _ _ ⟨3, rfl⟩ rfl⟩

end Problem

end BranchLR
