import BranchLR.Proofs.Derivation
import BranchLR.Proofs.Search.Stations

/-!
# Derivations are paths in the choice tree

Over the table of an automaton every derivation tree can be followed from the root of the choice
tree: a leaf is a shift, and a parent is a reduction after the paths of its children. A path over the
whole input leads to an accepting leaf.
-/

namespace BranchLR

open Automaton BuiltTable

/-- A reduction puts the newest roots under their parent. -/
theorem Forest.reduce?_of_eq_append {f : Forest} {label : String} {ns older : List Node}
    (h : f.newestFirst = ns.reverse ++ older) :
    f.reduce? label ns.length = some ⟨.parent label ns :: older⟩ := by
  have hlength : ns.reverse.length = ns.length := List.length_reverse
  simp [Forest.reduce?, h, List.take_left' hlength, List.drop_left' hlength]

variable [RegexLibrary]

/-- Rules are compared with the stack part by part. -/
theorem covers_append_eq_true_iff {g : Grammar} {as bs : List Rule} {stack : List Entry} :
    covers g (as ++ bs) stack = .ok true ↔
      covers g as stack = .ok true ∧ covers g bs (stack.drop as.length) = .ok true := by
  induction as generalizing stack with
  | nil => simp [covers]
  | cons a as ih =>
    cases stack with
    | nil => cases bs <;> simp [covers]
    | cons e stack =>
      simp only [List.cons_append, covers_cons_eq_true_iff, ih, List.length_cons,
        List.drop_succ_cons, and_assoc]

/-- The comparison does not look at candidates. -/
theorem covers_of_symbol_eq {g : Grammar} {rules : List Rule} {e e' : Entry} {stack : List Entry}
    (h : e'.symbol = e.symbol) : covers g rules (e' :: stack) = covers g rules (e :: stack) := by
  cases rules with
  | nil => simp [covers]
  | cons rule rules => simp [covers, h]

namespace Problem

variable {p : Problem} {ps : Array Production} {s s' s₁ : Snapshot} {q q' : Nat} {d : Dotted}
  {X : Rule} {production : Production}

/-- From a snapshot in state `q` a path leads to one that has pushed the rules, with their trees,
and has come to place `j`. The entry that was on top before is left with the row of its state as
soon as there is something above it. -/
structure Reads (p : Problem) (q : Nat) (s : Snapshot) (rules : List Rule) (j : Nat)
    (ns : List Node) (s' : Snapshot) : Prop where
  path : ∃ address, p.nodeAt s address = some s'
  place : s'.top.place = j
  forest : s'.forest.newestFirst = ns.reverse ++ s.forest.newestFirst
  covered : covers p.grammar rules.reverse s'.stack = .ok true
  base : ∃ base, s'.stack.drop rules.length = base :: s.below ∧ base.symbol = s.top.symbol ∧
    (rules ≠ [] → base.row? = some q)

theorem Reads.refl (p : Problem) (q : Nat) (s : Snapshot) : p.Reads q s [] s.top.place [] s :=
  ⟨⟨[], rfl⟩, rfl, rfl, by simp [covers], s.top, rfl, rfl, fun h => absurd rfl h⟩

/-- A path over one rule goes on with a path over the others. -/
theorem Reads.cons {rules : List Rule} {j k : Nat} {n : Node} {ns : List Node}
    (hhead : p.Reads q s [X] j [n] s₁) (htail : p.Reads q' s₁ rules k ns s') :
    p.Reads q s (X :: rules) k (n :: ns) s' := by
  obtain ⟨first, hfirst⟩ := hhead.path
  obtain ⟨second, hsecond⟩ := htail.path
  obtain ⟨base, hbase, hsymbol, hrow⟩ := hhead.base
  obtain ⟨inner, hinner, hinnerSymbol, -⟩ := htail.base
  refine ⟨⟨first ++ second, ?_⟩, htail.place, ?_, ?_, base, ?_, hsymbol, fun _ => hrow (by simp)⟩
  · rw [nodeAt_append, hfirst]
    exact hsecond
  · simp [htail.forest, hhead.forest]
  · have hmatch : covers p.grammar [X] (s₁.top :: s₁.below) = .ok true := hhead.covered
    rw [List.reverse_cons, covers_append_eq_true_iff, List.length_reverse, hinner]
    exact ⟨htail.covered, by rwa [covers_of_symbol_eq hinnerSymbol]⟩
  · have hbelow : s₁.below = base :: s.below := by simpa [Snapshot.stack] using hbase
    rw [List.length_cons, ← List.drop_drop, hinner, hbelow]
    rfl

/-- A move behind a path makes it longer. -/
theorem exists_path_of_moves {i : Nat} (hpath : ∃ address, p.nodeAt s address = some s₁)
    (hi : i < s₁.top.untried.length) (hmoves : p.Moves (s₁.selecting i) s') :
    ∃ address, p.nodeAt s address = some s' := by
  obtain ⟨address, haddress⟩ := hpath
  refine ⟨address ++ [i], ?_⟩
  rw [nodeAt_append, haddress]
  simp [nodeAt, branch_node_iff.2 ⟨hi, hmoves⟩]

/-- The upcoming symbol is shifted when it is expected. -/
theorem BuiltFrom.reads_upcoming (hp : p.BuiltFrom ps) (hs : Stationed ps q s)
    (hd : Holds ps q d) (hnext : nextRule ps d = some X) {symbol : Symbol} {n : Node} {j : Nat}
    (hupcoming : p.input.Upcoming s.top.place symbol n j)
    (hmatch : X.recognises p.grammar symbol = true) :
    ∃ s' q', p.Reads q s [X] j [n] s' ∧ Stationed ps q' s' ∧
      Holds ps q' ⟨d.production, d.dot + 1⟩ := by
  obtain ⟨q', guards, actions, hholds, hguards, hactions, hne, hfollowing⟩ :=
    hp.exists_candidates hd hnext hmatch
  obtain ⟨rest, hrest, -⟩ := following_eq_shift_cons hd hnext
  obtain ⟨i, hi, hselected, hrow⟩ := hs.exists_selecting (a := .shift q) (by simp [hrest])
  have hmoves := Moves.shift hselected hguards hupcoming hactions hne
  have hflat := hp.isFlat_of_nextRule hnext
  refine ⟨_, q', ⟨exists_path_of_moves ⟨[], rfl⟩ hi hmoves, rfl, rfl, ?_, ?_⟩, hfollowing, hholds⟩
  · exact covers_cons_eq_true_iff.2 ⟨hflat, hmatch, by simp [covers]⟩
  · exact ⟨(s.selecting i).top, rfl, rfl, fun _ => hrow d X hd hnext⟩

/-- A production whose rules have been read is reduced when its item is expected. -/
theorem BuiltFrom.reads_parent (hp : p.BuiltFrom ps) (hd : Holds ps q d)
    (hnext : nextRule ps d = some (.item production.item)) {number : Nat} (hnumber : number ≠ 0)
    (hproduction : ps[number]? = some production) {q₁ j : Nat} {ns : List Node}
    (hreads : p.Reads q s production.rules j ns s₁) (hlength : ns.length = production.rules.length)
    (hs₁ : Stationed ps q₁ s₁) (hholds₁ : Holds ps q₁ ⟨number, production.rules.length⟩)
    (hempty : production.rules = [] → s₁ = s ∧ q₁ = q) :
    ∃ s' q', p.Reads q s [.item production.item] j [.parent production.item ns] s' ∧
      Stationed ps q' s' ∧ Holds ps q' ⟨d.production, d.dot + 1⟩ := by
  have hmatch : Rule.recognises p.grammar (.item production.item) (.reduced production.item) =
      true := by simp [Rule.recognises]
  obtain ⟨q', guards, actions, hholds, hguards, hactions, hne, hfollowing⟩ :=
    hp.exists_candidates hd hnext hmatch
  have hcomplete : nextRule ps ⟨number, production.rules.length⟩ = none := by
    simp [nextRule, hproduction]
  obtain ⟨i, hi, hselected, hrow⟩ :=
    hs₁.exists_selecting (reduce_mem_following hholds₁ hnumber hproduction hcomplete)
  -- The entry that was on top is still there, as the selected one when the production is empty.
  have hbase : ∃ base, (s₁.selecting i).stack.drop production.rules.length = base :: s.below ∧
      base.symbol = s.top.symbol ∧ base.row? = some q := by
    cases hrules : production.rules with
    | nil =>
      obtain ⟨rfl, rfl⟩ := hempty hrules
      exact ⟨(s₁.selecting i).top, rfl, rfl, hrow d _ hd hnext⟩
    | cons rule rules =>
      obtain ⟨base, hdrop, hsymbol, hbaseRow⟩ := hreads.base
      rw [hrules] at hdrop hbaseRow
      exact ⟨base, hdrop, hsymbol, hbaseRow (by simp)⟩
  obtain ⟨base, hdrop, hsymbol, hbaseRow⟩ := hbase
  have hcovers : covers p.grammar production.rules.reverse (s₁.selecting i).stack = .ok true := by
    rw [← hreads.covered]
    exact covers_of_symbol_eq rfl
  have hforest : (s₁.selecting i).forest.reduce? production.item production.rules.length =
      some ⟨.parent production.item ns :: s.forest.newestFirst⟩ := by
    rw [← hlength]
    exact Forest.reduce?_of_eq_append hreads.forest
  have hmoves := Moves.reduce hselected hdrop hcovers hbaseRow hguards hactions hne hforest
  refine ⟨_, q', ⟨exists_path_of_moves hreads.path hi hmoves, hreads.place, rfl, ?_, ?_⟩,
    hfollowing, hholds⟩
  · exact covers_cons_eq_true_iff.2 ⟨rfl, hmatch, by simp [covers]⟩
  · exact ⟨base, rfl, hsymbol, fun _ => hbaseRow⟩

variable {admits : Production → Prop}

theorem length_eq_of_derivesAll {g : Grammar} {input : TokenStream} {rules : List Rule} {i j : Nat}
    {ns : List Node} (h : DerivesAll g input admits rules i j ns) : ns.length = rules.length := by
  induction rules generalizing i ns with
  | nil =>
    cases h
    rfl
  | cons rule rules ih =>
    cases h with
    | cons _ htail => simp [ih htail]

mutual

/-- A derivation of what a state expects is a path to a state with the mark moved over it. -/
theorem BuiltFrom.reads (hp : p.BuiltFrom ps)
    (hadmits : ∀ production, admits production → ∃ number, number ≠ 0 ∧ ps[number]? = some production)
    {X : Rule} {i j : Nat} {n : Node} :
    Derives p.grammar p.input admits X i j n → ∀ {s q d}, Stationed ps q s → s.top.place = i →
      Holds ps q d → nextRule ps d = some X →
      ∃ s' q', p.Reads q s [X] j [n] s' ∧ Stationed ps q' s' ∧
        Holds ps q' ⟨d.production, d.dot + 1⟩
  | .token hahead hmatch, s, q, d, hs, hplace, hd, hnext => by
    subst hplace
    exact hp.reads_upcoming hs hd hnext (.token hahead) hmatch
  | .endOfInput, s, q, d, hs, hplace, hd, hnext => by
    have hahead : p.input.ahead s.top.place = none := by
      simp [TokenStream.ahead, TokenStream.size, hplace]
    rw [← hplace]
    exact hp.reads_upcoming hs hd hnext (.atEnd hahead) rfl
  | .parent hproduction hchildren, s, q, d, hs, hplace, hd, hnext => by
    obtain ⟨number, hnumber, hget⟩ := hadmits _ hproduction
    obtain ⟨s₁, q₁, hreads, hs₁, hholds₁, hempty⟩ :=
      hp.readsAll hadmits hchildren hs hplace (hd.predicted hnext hnumber hget) hget rfl
    rw [Nat.zero_add] at hholds₁
    exact hp.reads_parent hd hnext hnumber hget hreads (length_eq_of_derivesAll hchildren) hs₁ hholds₁
      hempty

/-- A derivation of the rules behind a mark is a path to a state in which they are complete. -/
theorem BuiltFrom.readsAll (hp : p.BuiltFrom ps)
    (hadmits : ∀ production, admits production → ∃ number, number ≠ 0 ∧ ps[number]? = some production)
    {rules : List Rule} {i j : Nat} {ns : List Node} :
    DerivesAll p.grammar p.input admits rules i j ns → ∀ {s q d production}, Stationed ps q s →
      s.top.place = i → Holds ps q d → ps[d.production]? = some production →
      production.rules.drop d.dot = rules →
      ∃ s' q', p.Reads q s rules j ns s' ∧ Stationed ps q' s' ∧
        Holds ps q' ⟨d.production, d.dot + rules.length⟩ ∧ (rules = [] → s' = s ∧ q' = q)
  | .nil, s, q, d, production, hs, hplace, hd, _, _ => by
    subst hplace
    exact ⟨s, q, .refl p q s, hs, hd, fun _ => ⟨rfl, rfl⟩⟩
  | @DerivesAll.cons _ _ _ _ rule rules _ _ _ _ _ hhead htail, s, q, d, production, hs, hplace, hd,
      hproduction, hrules => by
    have hnext : nextRule ps d = some rule := by
      have hget : production.rules[d.dot]? = some rule := by
        rw [← List.head?_drop, hrules, List.head?_cons]
      simp [nextRule, hproduction, hget]
    obtain ⟨s₁, q₁, hreads, hs₁, hholds₁⟩ := hp.reads hadmits hhead hs hplace hd hnext
    have hrest : production.rules.drop (d.dot + 1) = rules := by
      rw [← List.drop_drop, hrules, List.drop_one, List.tail_cons]
    obtain ⟨s', q', hreads', hs', hholds', -⟩ :=
      hp.readsAll hadmits htail hs₁ hreads.place hholds₁ hproduction hrest
    refine ⟨s', q', hreads.cons hreads', hs', ?_, nofun⟩
    rwa [List.length_cons, Nat.add_comm rules.length, ← Nat.add_assoc]

end

/-- **Every derivation of the input is found in the choice tree.** -/
theorem BuiltFrom.exists_leaf (hp : p.BuiltFrom ps)
    (hadmits : ∀ production, admits production → ∃ number, number ≠ 0 ∧ ps[number]? = some production)
    {n : Node}
    (h : Derives p.grammar p.input admits (.item p.table.acceptItem) 0 p.input.size n) :
    ∃ address s i, p.nodeAt p.root address = some s ∧ p.branch s i = some (.leaf ⟨[n]⟩) := by
  have hnext : nextRule ps ⟨0, 0⟩ = some (.item p.table.acceptItem) := by
    simp [nextRule, hp.start_eq]
  have hroot : Stationed ps 0 p.root := by
    refine ⟨[], [], ?_⟩
    rw [List.nil_append, List.append_nil, root, hp.table_eq]
    rfl
  obtain ⟨s, q, hreads, hs, hholds⟩ := hp.reads hadmits h hroot rfl holds_zero hnext
  have hcomplete : nextRule ps ⟨0, 1⟩ = none := by simp [nextRule, hp.start_eq]
  obtain ⟨i, hi, hselected, -⟩ := hs.exists_selecting (accept_mem_following hholds rfl hcomplete)
  obtain ⟨address, haddress⟩ := hreads.path
  obtain ⟨base, hbase, -⟩ := hreads.base
  have hsymbol : s.top.symbol = .reduced p.table.acceptItem := by
    obtain ⟨-, hmatch, -⟩ := covers_cons_eq_true_iff.1 hreads.covered
    cases htop : s.top.symbol with
    | reduced item =>
      rw [htop] at hmatch
      rw [beq_iff_eq.1 hmatch]
    | _ => simp [Rule.recognises, htop, hp.start_not_token] at hmatch
  have haccepts : p.accepts (s.selecting i) = true :=
    accepts_iff.2 ⟨base, hbase, Nat.le_of_eq hreads.place.symm, hsymbol⟩
  have hforest : s.forest = ⟨[n]⟩ := by
    have := hreads.forest
    cases hs : s.forest
    simpa [hs, root] using this
  refine ⟨address, s, i, haddress, branch_leaf_iff.2 ⟨hi, ?_, hforest.symm⟩⟩
  exact attempt_accepted_iff.2 ⟨.inr hselected, haccepts⟩

end Problem

end BranchLR
