import BranchLR.Production

/-!
# The automaton of dotted productions

A dotted production is a production with a mark between the part already seen and the part still
expected. A state is a set of them, closed under predicting the productions of an expected item, and
a transition moves the mark over one symbol. States are numbered in the order of their discovery.

Both loops end because they only add to what they have seen: closing adds productions with the mark
in front, and exploring adds sets of dotted productions, and there are finitely many of either.
-/

namespace BranchLR

/-- A production, by its number, with a mark before the rule with the given index. -/
structure Dotted where
  production : Nat
  dot : Nat
  deriving DecidableEq

namespace Dotted

/-- The order of dotted productions: by production and then by mark. -/
def Precedes (a b : Dotted) : Prop :=
  a.production < b.production ∨ a.production = b.production ∧ a.dot < b.dot

instance (a b : Dotted) : Decidable (a.Precedes b) := by
  unfold Precedes
  infer_instance

theorem Precedes.trans {a b c : Dotted} (h : a.Precedes b) (k : b.Precedes c) : a.Precedes c := by
  unfold Precedes at *
  omega

theorem Precedes.ne {a b : Dotted} (h : a.Precedes b) : a ≠ b := by
  rintro rfl
  unfold Precedes at h
  omega

theorem precedes_of_not {a b : Dotted} (h : ¬a.Precedes b) (hne : a ≠ b) : b.Precedes a := by
  obtain ⟨p, i⟩ := a
  obtain ⟨q, j⟩ := b
  have hne : ¬(p = q ∧ i = j) := by simpa using hne
  unfold Precedes at *
  simp only at *
  omega

/-- Adds a dotted production to an ordered set. -/
def insertInto (d : Dotted) : List Dotted → List Dotted
  | [] => [d]
  | e :: l => if d.Precedes e then d :: e :: l else if d = e then e :: l else e :: d.insertInto l

/-- The ordered set of the members of a list. -/
def sorted (l : List Dotted) : List Dotted := l.foldr insertInto []

theorem mem_insertInto {d e : Dotted} {l : List Dotted} : e ∈ d.insertInto l ↔ e = d ∨ e ∈ l := by
  induction l with
  | nil => simp [insertInto]
  | cons b l ih =>
    unfold insertInto
    split
    · simp
    · split
      next h => simp [h]
      next => simp [ih, or_left_comm]

@[simp]
theorem mem_sorted {e : Dotted} {l : List Dotted} : e ∈ sorted l ↔ e ∈ l := by
  induction l with
  | nil => simp [sorted]
  | cons d l ih =>
    rw [sorted, List.foldr_cons, mem_insertInto, ← sorted, ih, List.mem_cons]

theorem pairwise_insertInto {d : Dotted} {l : List Dotted} (h : l.Pairwise Precedes) :
    (d.insertInto l).Pairwise Precedes := by
  induction l with
  | nil => simp [insertInto]
  | cons b l ih =>
    obtain ⟨hb, hl⟩ := List.pairwise_cons.1 h
    unfold insertInto
    split
    next hd =>
      refine List.pairwise_cons.2 ⟨fun e he => ?_, h⟩
      rcases List.mem_cons.1 he with rfl | he
      · exact hd
      · exact hd.trans (hb e he)
    next hd =>
      split
      next => exact h
      next hne =>
        refine List.pairwise_cons.2 ⟨fun e he => ?_, ih hl⟩
        rcases mem_insertInto.1 he with rfl | he
        · exact precedes_of_not hd hne
        · exact hb e he

theorem pairwise_sorted (l : List Dotted) : (sorted l).Pairwise Precedes := by
  induction l with
  | nil => simp [sorted]
  | cons d l ih => exact pairwise_insertInto ih

end Dotted

section Exhaustion

/-- The sublists of a list. -/
def sublistsOf {α : Type} : List α → List (List α)
  | [] => [[]]
  | a :: l => (sublistsOf l).map (a :: ·) ++ sublistsOf l

/-- An ordered part of an ordered list is one of its sublists. -/
theorem mem_sublistsOf {l all : List Dotted} (hl : l.Pairwise Dotted.Precedes)
    (hall : all.Pairwise Dotted.Precedes) (sub : ∀ d ∈ l, d ∈ all) : l ∈ sublistsOf all := by
  induction all generalizing l with
  | nil =>
    cases l with
    | nil => simp [sublistsOf]
    | cons d l => exact absurd (sub d List.mem_cons_self) List.not_mem_nil
  | cons b all ih =>
    obtain ⟨hb, hall⟩ := List.pairwise_cons.1 hall
    simp only [sublistsOf, List.mem_append, List.mem_map]
    cases l with
    | nil => exact .inr (ih .nil hall (by simp))
    | cons d l =>
      obtain ⟨hd, hl'⟩ := List.pairwise_cons.1 hl
      have rest : ∀ e ∈ l, e ∈ all := fun e he =>
        (List.mem_cons.1 (sub e (List.mem_cons_of_mem d he))).resolve_left fun heq => by
          rcases List.mem_cons.1 (sub d List.mem_cons_self) with h | h
          · exact (hd e he).ne (h.trans heq.symm)
          · exact ((hb d h).trans (hd e he)).ne heq.symm
      rcases List.mem_cons.1 (sub d List.mem_cons_self) with h | h
      · exact .inl ⟨l, ih hl' hall rest, by rw [h]⟩
      · exact .inr (ih hl hall fun e he => (List.mem_cons.1 he).elim (· ▸ h) (rest e))

/-- The number of members of a list that have not been seen. -/
def unseen {α : Type} [DecidableEq α] (all seen : List α) : Nat :=
  (all.filter fun a => !seen.contains a).length

theorem unseen_lt {α : Type} [DecidableEq α] {all seen later : List α} {a : α}
    (sub : ∀ b ∈ seen, b ∈ later) (mem : a ∈ all) (fresh : a ∉ seen) (known : a ∈ later) :
    unseen all later < unseen all seen := by
  have h : all.filter (fun b => !later.contains b) =
      (all.filter fun b => !seen.contains b).filter fun b => !later.contains b := by
    rw [List.filter_filter]
    apply List.filter_congr
    intro b _
    by_cases hb : b ∈ later
    · simp [hb]
    · have : b ∉ seen := fun h => hb (sub b h)
      simp [hb, this]
  unfold unseen
  rw [h, List.length_filter_lt_length_iff_exists]
  exact ⟨a, List.mem_filter.2 ⟨mem, by simpa using fresh⟩, by simpa using known⟩

end Exhaustion

variable [RegexLibrary]

/-- A set of dotted productions with what follows from it. -/
structure State where
  /-- The dotted productions that define the state, by production and mark. -/
  kernel : List Dotted
  /-- The kernel and all it predicts, in the order in which it is found. -/
  closure : List Dotted
  /-- The symbols that can be read next, each with the number of the state it leads to. -/
  transitions : List (Rule × Nat)

namespace Automaton

variable (ps : Array Production)

/-- The rule after the mark. -/
def nextRule (d : Dotted) : Option Rule := ps[d.production]?.bind fun p => p.rules[d.dot]?

/-- Whether the mark stands at the end. -/
def isComplete (d : Dotted) : Bool := !(nextRule ps d).isSome

@[simp] theorem isComplete_iff {d : Dotted} : isComplete ps d = true ↔ nextRule ps d = none := by
  simp [isComplete]

/-- The numbers of the productions of an item. Number zero is the production that starts the
automaton and belongs to no item. -/
def productionsOf (name : String) : List Nat :=
  (List.range ps.size).filter fun i => i != 0 && ps[i]?.any fun p => p.item == name

/-- The productions of the item after the mark, with the mark in front. -/
def predicted (d : Dotted) : List Dotted :=
  match nextRule ps d with
  | some (.item name) => (productionsOf ps name).map (⟨·, 0⟩)
  | _ => []

/-- All productions with the mark in front. -/
def openings : List Dotted := (List.range ps.size).map (⟨·, 0⟩)

theorem predicted_subset_openings {d e : Dotted} (h : e ∈ predicted ps d) : e ∈ openings ps := by
  unfold predicted at h
  split at h
  · obtain ⟨i, hi, rfl⟩ := List.mem_map.1 h
    exact List.mem_map.2 ⟨i, (List.mem_filter.1 hi).1, rfl⟩
  · simp at h

/-- Adds to the dotted productions in `done`, whose predictions have been added, those in `todo` and
everything they predict. -/
def closeFrom (done todo : List Dotted) : List Dotted :=
  match todo with
  | [] => done
  | d :: rest =>
    closeFrom (done ++ [d]) (rest ++
      (predicted ps d).filter fun e => !(done ++ d :: rest).contains e)
termination_by (unseen (openings ps) (done ++ todo), todo.length)
decreasing_by
  by_cases h : (predicted ps d).filter (fun e => !(done ++ d :: rest).contains e) = []
  · rw [h]
    simp [Prod.lex_def]
  · obtain ⟨e, he⟩ := List.exists_mem_of_ne_nil _ h
    have hm := List.mem_filter.1 he
    apply Prod.Lex.left
    apply unseen_lt (a := e)
    · intro b hb
      simp only [List.mem_append, List.mem_cons] at hb ⊢
      rcases hb with hb | hb | hb <;> simp [hb]
    · exact predicted_subset_openings ps hm.1
    · simpa using hm.2
    · simp only [List.mem_append]
      exact .inr (.inr he)

/-- A set of dotted productions with everything it predicts. -/
def closure (kernel : List Dotted) : List Dotted := closeFrom ps [] kernel

/-- Every production with every mark, by production and mark. -/
def places : List Dotted :=
  (List.range ps.size).flatMap fun p =>
    (List.range ((ps[p]?.elim 0 fun q => q.rules.length) + 1)).map (⟨p, ·⟩)

/-- The dotted productions of a set that expect a symbol, each with the symbol and with the mark
moved behind it. -/
def advances (items : List Dotted) : List (Rule × Dotted) :=
  items.filterMap fun d => (nextRule ps d).map fun X => (X, ⟨d.production, d.dot + 1⟩)

/-- The kernel that reading `X` leads to, given what can be read. -/
def target (advances : List (Rule × Dotted)) (X : Rule) : List Dotted :=
  Dotted.sorted ((advances.filter fun a => a.1 == X).map fun (_, d) => d)

/-- The symbols that can be read from a closed set, in the order of their first occurrence, each
with the kernel it leads to. -/
def moves (items : List Dotted) : List (Rule × List Dotted) :=
  let next := advances ps items
  (next.map Prod.fst).eraseDups.map fun X => (X, target next X)

/-- The kernels among some moves that are not yet known. -/
def freshTargets (known : List (List Dotted)) (targets : List (Rule × List Dotted)) :
    List (List Dotted) :=
  ((targets.map fun (_, k) => k).filter fun k => !known.contains k).eraseDups

theorem pairwise_places : (places ps).Pairwise Dotted.Precedes := by
  unfold places
  rw [List.pairwise_flatMap]
  refine ⟨fun p _ => ?_, List.pairwise_lt_range.imp fun h x hx y hy => ?_⟩
  · exact List.pairwise_map.2 (List.pairwise_lt_range.imp fun h => .inr ⟨rfl, h⟩)
  · obtain ⟨_, _, rfl⟩ := List.mem_map.1 hx
    obtain ⟨_, _, rfl⟩ := List.mem_map.1 hy
    exact .inl h

theorem advances_subset_places {items : List Dotted} {a : Rule × Dotted}
    (h : a ∈ advances ps items) : a.2 ∈ places ps := by
  obtain ⟨d, _, hd⟩ := List.mem_filterMap.1 h
  obtain ⟨X, hX, rfl⟩ := Option.map_eq_some_iff.1 hd
  obtain ⟨p, hp, hr⟩ := Option.bind_eq_some_iff.1 hX
  obtain ⟨hlt, -⟩ := Array.getElem?_eq_some_iff.1 hp
  obtain ⟨hdot, -⟩ := List.getElem?_eq_some_iff.1 hr
  refine List.mem_flatMap.2 ⟨d.production, List.mem_range.2 hlt, ?_⟩
  exact List.mem_map.2 ⟨d.dot + 1, List.mem_range.2 (by simp [hp]; omega), rfl⟩

theorem freshTargets_fresh {known : List (List Dotted)} {items : List Dotted} {k : List Dotted}
    (h : k ∈ freshTargets known (moves ps items)) : k ∈ sublistsOf (places ps) ∧ k ∉ known := by
  obtain ⟨hm, hk⟩ := List.mem_filter.1 (List.mem_eraseDups.1 h)
  obtain ⟨_, hmove, rfl⟩ := List.mem_map.1 hm
  obtain ⟨X, _, rfl⟩ := List.mem_map.1 hmove
  refine ⟨mem_sublistsOf (Dotted.pairwise_sorted _) (pairwise_places ps) fun d hd => ?_,
    by simpa using hk⟩
  obtain ⟨a, ha, rfl⟩ := List.mem_map.1 (Dotted.mem_sorted.1 hd)
  exact advances_subset_places ps (List.mem_filter.1 ha).1

/-- The state with the given kernel, closed set and moves, where `known` lists the kernels by their
numbers. -/
def stateOf (known : List (List Dotted)) (kernel items : List Dotted)
    (targets : List (Rule × List Dotted)) : State :=
  ⟨kernel, items, targets.map fun (X, k) => (X, known.idxOf k)⟩

/-- The kernels of the finished states and those still to be explored, by their numbers. -/
def kernels (done : List State) (todo : List (List Dotted)) : List (List Dotted) :=
  done.map State.kernel ++ todo

/-- Adds to the finished states the states of the kernels in `todo` and all they lead to. -/
def explore (done : List State) (todo : List (List Dotted)) : List State :=
  match todo with
  | [] => done
  | kernel :: rest =>
    let known := kernels done (kernel :: rest)
    let items := closure ps kernel
    let targets := moves ps items
    let fresh := freshTargets known targets
    explore (done ++ [stateOf (known ++ fresh) kernel items targets]) (rest ++ fresh)
termination_by (unseen (sublistsOf (places ps)) (kernels done todo), todo.length)
decreasing_by
  have hk : ∀ known items targets fresh,
      kernels (done ++ [stateOf known kernel items targets]) (rest ++ fresh) =
        kernels done (kernel :: rest) ++ fresh := by
    simp [kernels, stateOf]
  simp only [hk]
  generalize hf :
    freshTargets (kernels done (kernel :: rest)) (moves ps (closure ps kernel)) = fresh
  cases fresh with
  | nil => simp [Prod.lex_def]
  | cons k fresh =>
    have hm := freshTargets_fresh ps (hf ▸ List.mem_cons_self)
    apply Prod.Lex.left
    exact unseen_lt (fun b hb => List.mem_append_left _ hb) hm.1 hm.2 (by simp)

/-- The states of the automaton that starts from production zero. -/
def states : List State := explore ps [] [[⟨0, 0⟩]]

end Automaton

end BranchLR
