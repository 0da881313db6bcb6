import BranchLR.Proofs.Search.Inside
import BranchLR.Proofs.TreeSize

/-!
# Stacks of bounded height

Entries can pile up at one place of the input, one above the other, by reductions that read no
token. If the mark of a production has been moved over such entries only, its item opens the next
item with something in front, and the openings of grounded productions can be hidden only so many
times. So the number of entries at one place is bounded, and with it the height of every stack and
the size of every forest that a search builds.
-/

namespace BranchLR

open Automaton BuiltTable

variable [RegexLibrary]

/-- The number of entries on top of a stack that stand at the place of the entry below them. -/
def pile : List Entry → Nat
  | e :: below :: rest => if e.place = below.place then pile (below :: rest) + 1 else 0
  | _ => 0

/-- The number of entries that never pile up at one place. -/
def pileBound (productions : List Production) : Nat :=
  width productions * (productions.length + 2) + 1

/-- The number of nodes that no forest of a search exceeds. -/
def forestBound (productions : List Production) (input : TokenStream) : Nat :=
  (pileBound productions + 1) * (input.size + 1) * nodeBound productions input

variable {ps : Array Production} {productions : List Production}

theorem width_mul_diveRank_le (productions : List Production) (A : String) :
    width productions * diveRank productions A ≤ width productions * productions.length :=
  Nat.mul_le_mul_left _ (rank_le_length productions (Dives productions) A)

/-- The next item is opened by the item of a mark that expects it, hidden behind what the mark has
been moved over. -/
theorem opens_of_nullable {d : Dotted} {production : Production} {name : String}
    (hmem : production ∈ productions) (hproduction : ps[d.production]? = some production)
    (hnext : nextRule ps d = some (.item name))
    (hnullable : ∀ X ∈ production.rules.take d.dot, Nullable productions X) :
    Opens productions production.item name ∧
      (0 < d.dot → OpensHidden productions production.item name) := by
  have hdrop := drop_of_nextRule hproduction hnext
  have hrules : production.rules =
      production.rules.take d.dot ++ .item name :: production.rules.drop (d.dot + 1) := by
    rw [← hdrop, List.take_append_drop]
  have hsplit : ⟨production.item, production.rules.take d.dot ++
      .item name :: production.rules.drop (d.dot + 1)⟩ ∈ productions := by
    rw [← hrules]
    exact hmem
  refine ⟨⟨_, _, hsplit, hnullable⟩, ?_⟩
  intro hpos
  refine ⟨_, _, ?_, hsplit, hnullable⟩
  intro hempty
  have hlt := dot_lt_length hproduction hnext
  have hlength := congrArg List.length hempty
  rw [List.length_take, List.length_nil] at hlength
  omega

/-- A prediction keeps the balance between a height and the items that are left to dive into. -/
theorem Grounded.add_diveRank_le (h : Grounded productions) {d : Dotted}
    {production next : Production} {height : Nat} (hmem : production ∈ productions)
    (hproduction : ps[d.production]? = some production) (hnextMem : next ∈ productions)
    (hnext : nextRule ps d = some (.item next.item))
    (hnullable : d.dot ≤ height → ∀ X ∈ production.rules.take d.dot, Nullable productions X)
    (hheight : height + width productions * diveRank productions production.item ≤
      d.dot + width productions * (productions.length + 1)) :
    height + width productions * diveRank productions next.item ≤
      width productions * (productions.length + 1) := by
  have hdot : d.dot ≤ width productions := by
    have hlt := dot_lt_length hproduction hnext
    have hwidth := length_le_width hmem
    omega
  by_cases hle : d.dot ≤ height
  · obtain ⟨hopens, hhidden⟩ := opens_of_nullable hmem hproduction hnext (hnullable hle)
    by_cases hzero : d.dot = 0
    · have hmul := Nat.mul_le_mul_left (width productions) hopens.diveRank_le
      omega
    · -- The item is hidden behind at most as many entries as the productions are wide.
      have hlt := h.diveRank_lt hnextMem (hhidden (Nat.pos_of_ne_zero hzero))
      have hmul := Nat.mul_le_mul_left (width productions) (Nat.succ_le_of_lt hlt)
      rw [Nat.mul_succ] at hmul
      omega
  · have hmul := width_mul_diveRank_le productions next.item
    rw [Nat.mul_succ]
    omega

namespace Problem

variable {p : Problem} {s : Snapshot} {q : Nat} {stack : List Entry} {qs : List Nat}
  {ns : List Node}

/-- A root derives what lies behind the entry below. -/
theorem Stands.le {symbol : Symbol} {i j : Nat} {n : Node} (h : p.Stands symbol i j n) : i ≤ j := by
  cases h with
  | terminal => exact Nat.le_succ _
  | endOfInput => exact Nat.le_refl _
  | reduced _ hchildren => exact hchildren.leaves_eq.1

/-- Behind the first state, what starts the automaton expects nothing any more. -/
theorem BuiltFrom.ne_zero_of_nextRule (hp : p.BuiltFrom ps) {before next : Nat} {X Y : Rule}
    (hleads : Leads ps before X next) {d : Dotted} (hd : Holds ps next d)
    (hnext : nextRule ps d = some Y) : d.production ≠ 0 := by
  intro hzero
  obtain ⟨number, dot⟩ := d
  obtain rfl : number = 0 := hzero
  have hlt := dot_lt_length hp.start_eq hnext
  obtain rfl : dot = 0 := by simpa using hlt
  exact hleads.not_holds_start hd

section

variable (hp : p.BuiltFrom ps)
  (hproper : ∀ production, Proper ps production → production ∈ productions)

include hp hproper

theorem BuiltFrom.mem_of_reduces (production : Production) (h : p.table.Reduces production) :
    production ∈ productions :=
  hproper production (hp.proper_of_reduces h)

/-- What a mark has been moved over at one place is nullable. -/
theorem Inside.nullable_of_le_pile (h : p.Inside ps stack (q :: qs))
    (hrepresents : p.Represents stack ns) {number dot : Nat} {production : Production}
    (hd : Holds ps q ⟨number, dot⟩) (hproduction : ps[number]? = some production)
    (hdot : dot ≤ pile stack) :
    ∀ X ∈ production.rules.take dot, Nullable productions X := by
  induction dot generalizing stack q qs ns with
  | zero => simp
  | succ dot ih =>
    cases h with
    | bottom => exact absurd hdot (Nat.not_succ_le_zero dot)
    | @push e below rest q _ qs Y guards hbelow _ hleads hmatch _ _ _ =>
      unfold pile at hdot
      split at hdot
      next hplace =>
        cases hrepresents with
        | push hrest hstands =>
          obtain ⟨hbefore, hnext⟩ := hleads.holds_before hd
          have hearlier := ih hbelow hrest hbefore (by omega)
          have hlast : Nullable productions Y :=
            (hstands.derives hmatch).nullable (hp.mem_of_reduces hproper) (Nat.le_of_eq hplace)
          have hget : production.rules[dot]? = some Y := by
            simpa [nextRule, hproduction] using hnext
          intro X hX
          rw [List.take_add_one, hget, Option.toList_some, List.mem_append,
            List.mem_singleton] at hX
          rcases hX with hX | rfl
          · exact hearlier X hX
          · exact hlast
      next => omega

variable (hgrounded : Grounded productions)

include hgrounded

/-- **The higher entries have piled up, the fewer items are left to dive into.** -/
theorem Inside.pile_add_le (h : p.Inside ps stack (q :: qs)) (hrepresents : p.Represents stack ns)
    {d : Dotted} (hd : Holds ps q d) {production : Production}
    (hproduction : ps[d.production]? = some production) :
    pile stack + width productions * diveRank productions production.item ≤
      d.dot + width productions * (productions.length + 1) := by
  induction stack generalizing q qs ns d production with
  | nil => cases h
  | cons e rest ih =>
    have hinside := h
    cases h with
    | bottom =>
      have hfree := width_mul_diveRank_le productions production.item
      rw [Nat.mul_succ, pile]
      · omega
      · nofun
    | @push _ below rest _ _ _ _ _ hbelow _ hleads _ _ _ _ =>
      refine hd.induction
        (P := fun d => ∀ production, ps[d.production]? = some production →
          pile (e :: below :: rest) + width productions * diveRank productions production.item ≤
            d.dot + width productions * (productions.length + 1)) ?_ ?_ production hproduction
      · -- A mark that has been moved over the top entry has one more symbol behind it.
        intro d hkernel production hproduction
        obtain ⟨d, hd, -, rfl⟩ := hleads.inKernel_iff.1 hkernel
        cases hrepresents with
        | push hrest _ =>
          have hearlier := ih hbelow hrest hd hproduction
          have hfree := width_mul_diveRank_le productions production.item
          rw [Nat.mul_succ] at hearlier ⊢
          unfold pile
          dsimp only
          split
          next => omega
          next => omega
      · intro d predicted hd hbalance hpredicted next hget
        obtain ⟨next', hnext, hnumber, hdot, hget'⟩ := exists_of_mem_predicted hpredicted
        obtain rfl : next' = next := Option.some.inj (hget'.symm.trans hget)
        obtain ⟨production, hproduction, -⟩ := exists_of_nextRule hnext
        have hmem : production ∈ productions := by
          refine hproper production ⟨d.production, ?_, hproduction⟩
          exact hp.ne_zero_of_nextRule hleads hd hnext
        have hnextMem := hproper next' ⟨predicted.production, hnumber, hget⟩
        rw [hdot, Nat.zero_add]
        refine hgrounded.add_diveRank_le hmem hproduction hnextMem hnext ?_
          (hbalance production hproduction)
        exact hinside.nullable_of_le_pile hp hproper hrepresents hd hproduction

theorem Inside.pile_le (h : p.Inside ps stack qs) (hrepresents : p.Represents stack ns) :
    pile stack ≤ pileBound productions := by
  have hinside := h
  cases h with
  | bottom => exact Nat.zero_le _
  | @push _ _ _ _ next _ X _ _ _ hleads _ _ _ _ =>
    obtain ⟨d, hd, hnext⟩ := hleads.exists_holds
    obtain ⟨production, hproduction, -⟩ := exists_of_nextRule hnext
    have hmoved : Holds ps next ⟨d.production, d.dot + 1⟩ :=
      (hleads.inKernel_iff.2 ⟨d, hd, hnext, rfl⟩).holds
    have hbalance := hinside.pile_add_le hp hproper hgrounded hrepresents hmoved hproduction
    have hdot := dot_lt_length hproduction hnext
    have hlength : production.rules.length ≤ width productions + 1 := by
      by_cases hzero : d.production = 0
      · rw [hzero, hp.start_eq, Option.some.injEq] at hproduction
        simp [← hproduction]
      · have hwidth := length_le_width (hproper production ⟨d.production, hzero, hproduction⟩)
        omega
    unfold pileBound
    rw [Nat.mul_succ] at hbalance ⊢
    rw [Nat.mul_succ]
    dsimp only at hbalance
    omega

/-- The height of a stack is bounded by the place of its top entry. -/
theorem Inside.length_le {e : Entry} {rest : List Entry} (h : p.Inside ps (e :: rest) qs)
    (hrepresents : p.Represents (e :: rest) ns) :
    (e :: rest).length ≤ (pileBound productions + 1) * e.place + pile (e :: rest) + 1 := by
  induction rest generalizing e qs ns with
  | nil => simp
  | cons below rest ih =>
    cases h with
    | push hbelow =>
      cases hrepresents with
      | push hrest hstands =>
        have hearlier := ih hbelow hrest
        rw [List.length_cons, pile]
        split
        next hplace =>
          rw [hplace]
          omega
        next hplace =>
          have hpile := hbelow.pile_le hp hproper hgrounded hrest
          have hle := hstands.le
          have hlater : below.place + 1 ≤ e.place := by omega
          have hmul := Nat.mul_le_mul_left (pileBound productions + 1) hlater
          rw [Nat.mul_succ] at hmul
          omega

theorem Stands.size_le {symbol : Symbol} {i j : Nat} {n : Node} (h : p.Stands symbol i j n)
    (hj : j ≤ p.input.size) : n.size ≤ nodeBound productions p.input := by
  cases h with
  | terminal => exact treeBound_pos _ _
  | endOfInput => exact treeBound_pos _ _
  | reduced hreduces hchildren =>
    exact hgrounded.size_le (hp.mem_of_reduces hproper) (.parent hreduces hchildren) hj

/-- Every root of a forest is bounded. -/
theorem Represents.size_le (h : p.Represents stack ns) :
    ∀ n ∈ ns, n.size ≤ nodeBound productions p.input := by
  induction h with
  | bottom => nofun
  | @push e below rest n ns hbelow hstands ih =>
    intro m hm
    rcases List.mem_cons.1 hm with rfl | hm
    · have hplace := hstands.le_size hbelow.place_le
      exact hstands.size_le hp hproper hgrounded hplace
    · exact ih m hm

/-- **A search over grounded productions builds forests of bounded size.** -/
theorem Inside.sizeAll_le (h : p.Inside ps s.stack qs) (hsound : p.Sound s) :
    Node.sizeAll s.forest.newestFirst ≤ forestBound productions p.input := by
  have hrepresents := hsound.represents
  have hroots := Node.sizeAll_le (hrepresents.size_le hp hproper hgrounded)
  have hcount := hrepresents.length_eq
  have hheight := h.length_le hp hproper hgrounded hrepresents
  have hpile := h.pile_le hp hproper hgrounded hrepresents
  have hplace := Nat.mul_le_mul_left (pileBound productions + 1) hrepresents.place_le
  have hlength : s.forest.newestFirst.length ≤
      (pileBound productions + 1) * (p.input.size + 1) := by
    rw [Nat.mul_succ]
    unfold Snapshot.stack at hcount hpile
    omega
  exact Nat.le_trans hroots (Nat.mul_le_mul_right _ hlength)

end

end Problem

end BranchLR
