import Mathlib.Order.Bounds.Basic
import Mathlib.Logic.Relation
import BranchLR.Proofs.Search.Inside
import BranchLR.Proofs.Search.Survey
import BranchLR.Proofs.Sentential

/-!
# Rejections name the longest viable prefix

A part of the input up to some place is viable when a sentential form of the start item begins with
symbols for its tokens. Every mark in the state of the top entry is valid behind the guards that the
stack stands for, so no stack goes further than a viable part. In return a viable part can be read
along a path of the choice tree. The node at its end reduces as long as a reduction is selected, and
the action that it comes to then looks at the token behind the part. So a search that has been
through the whole tree names the place behind the longest viable part.
-/

namespace BranchLR

open Automaton BuiltTable Relation

section Library

variable [RegexLibrary]

/-- The tokens before a place can be the beginning of what an item derives: some sentential form of
the item begins with symbols for them. -/
def Viable (g : Grammar) (input : TokenStream) (admits : Production → Prop) (start : String)
    (place : Nat) : Prop :=
  ∃ symbols rest, ReflTransGen (Rewrites admits) [.item start] (symbols ++ rest) ∧
    Spells g input symbols 0 place

theorem viable_zero (g : Grammar) (input : TokenStream) (admits : Production → Prop)
    (start : String) : Viable g input admits start 0 :=
  ⟨[], [.item start], .refl, .nil⟩

namespace Automaton

variable {ps : Array Production} {d e : Dotted} {X : Rule} {production : Production}

/-- Some sentential form of the start item has the rules behind the mark right behind the guards. -/
def ValidBehind (ps : Array Production) (start : String) (guards : List Rule) (d : Dotted) : Prop :=
  ∃ production rest, ps[d.production]? = some production ∧
    ReflTransGen (Rewrites (Proper ps)) [.item start]
      (guards ++ (production.rules.drop d.dot ++ rest))

variable {start : String} {guards : List Rule}

theorem validBehind_start (hstart : ps[0]? = some ⟨"", [.item start]⟩) :
    ValidBehind ps start [] ⟨0, 0⟩ :=
  ⟨_, [], hstart, .refl⟩

/-- What a valid mark predicts is valid behind the same guards. -/
theorem ValidBehind.predicted (h : ValidBehind ps start guards d)
    (he : e ∈ Automaton.predicted ps d) : ValidBehind ps start guards e := by
  obtain ⟨production, rest, hproduction, hform⟩ := h
  obtain ⟨next, hnext, hnumber, hdot, hget⟩ := exists_of_mem_predicted he
  let after := production.rules.drop (d.dot + 1) ++ rest
  refine ⟨next, after, hget, ?_⟩
  rw [drop_of_nextRule hproduction hnext, List.cons_append] at hform
  have hstep : Rewrites (Proper ps) (guards ++ .item next.item :: after)
      (guards ++ (next.rules ++ after)) := .replace guards after ⟨e.production, hnumber, hget⟩
  rw [hdot, List.drop_zero]
  exact hform.tail hstep

/-- A valid mark that is moved over a symbol is valid behind one more guard. -/
theorem ValidBehind.advance (h : ValidBehind ps start guards d) (hnext : nextRule ps d = some X) :
    ValidBehind ps start (guards ++ [X]) ⟨d.production, d.dot + 1⟩ := by
  obtain ⟨production, rest, hproduction, hform⟩ := h
  refine ⟨production, rest, hproduction, ?_⟩
  rw [drop_of_nextRule hproduction hnext] at hform
  simpa using hform

end Automaton

namespace Problem

variable {p : Problem} {ps : Array Production} {s t : Snapshot} {q furthest : Nat} {r : Run}

/-! ### What has been read is viable -/

/-- The marks in the state of the top entry are valid behind guards that derive what has been read.
-/
theorem Inside.exists_guards (hp : p.BuiltFrom ps) {stack : List Entry} {qs : List Nat}
    {ns : List Node} (h : p.Inside ps stack qs) (hrepresents : p.Represents stack ns) :
    ∃ e rest q older guards, stack = e :: rest ∧ qs = q :: older ∧
      DerivesAll p.grammar p.input p.table.Reduces guards 0 e.place ns.reverse ∧
      ∀ d, Holds ps q d → ValidBehind ps p.table.acceptItem guards d := by
  induction h generalizing ns with
  | bottom =>
    cases hrepresents with
    | bottom _ hplace =>
      refine ⟨_, _, _, _, [], rfl, rfl, by simpa [hplace] using .nil, ?_⟩
      intro d hd
      refine hd.induction (P := ValidBehind ps p.table.acceptItem []) ?_ ?_
      · intro d hkernel
        rw [inKernel_zero_iff.1 hkernel]
        exact validBehind_start hp.start_eq
      · intro d e _ hvalid he
        exact hvalid.predicted he
  | @push e below rest q next qs X guards hbelow hrow hleads hmatch _ _ _ ih =>
    cases hrepresents with
    | @push _ _ _ n ns hrest hstands =>
      obtain ⟨_, _, _, _, before, hstack, hqs, hderives, hvalid⟩ := ih hrest
      cases hstack
      cases hqs
      refine ⟨e, _, next, _, before ++ [X], rfl, rfl, ?_, ?_⟩
      · rw [List.reverse_cons]
        exact hderives.append (.cons (hstands.derives hmatch) .nil)
      · intro d hd
        refine hd.induction (P := ValidBehind ps p.table.acceptItem (before ++ [X])) ?_ ?_
        · intro d hkernel
          obtain ⟨d, hd, hnext, rfl⟩ := hleads.inKernel_iff.1 hkernel
          exact (hvalid d hd).advance hnext
        · intro d e _ hvalid he
          exact hvalid.predicted he

/-- **Every stack of a search has read a viable part of the input.** -/
theorem Inside.viable (hp : p.BuiltFrom ps) {qs : List Nat} (h : p.Inside ps s.stack qs)
    (hsound : p.Sound s) :
    Viable p.grammar p.input (Proper ps) p.table.acceptItem s.top.place := by
  obtain ⟨e, rest, q, older, guards, hstack, rfl, hderives, hvalid⟩ :=
    h.exists_guards hp hsound.represents
  obtain ⟨rfl, rfl⟩ := List.cons.inj hstack
  obtain ⟨_, _, heq, -, hentered⟩ := h.top
  cases heq
  obtain ⟨d, hd⟩ := hentered.exists_holds
  obtain ⟨production, after, -, hform⟩ := hvalid d hd
  obtain ⟨symbols, more, hrewrites, hspells, -⟩ := hderives.reaches (Nat.zero_le _)
  have hproper : ReflTransGen (Rewrites (Proper ps)) guards (symbols ++ more) :=
    hrewrites.lift id fun _ _ hstep => hstep.mono fun _ => hp.proper_of_reduces
  refine ⟨symbols, more ++ (production.rules.drop d.dot ++ after), ?_, hspells⟩
  rw [← List.append_assoc]
  exact hform.trans (rewrites_append_right hproper _)

/-- The furthest place of a search lies behind a viable part. -/
theorem Reachable.viable_lookedAt (hp : p.BuiltFrom ps) (h : p.Reachable r) :
    Viable p.grammar p.input (Proper ps) p.table.acceptItem (lookedAt r.current r.furthest) := by
  have hlooked : ∀ r, p.Reachable r →
      Viable p.grammar p.input (Proper ps) p.table.acceptItem r.furthest →
      Viable p.grammar p.input (Proper ps) p.table.acceptItem (lookedAt r.current r.furthest) := by
    intro r hr hfurthest
    obtain ⟨qs, hinside⟩ := (hr.inside hp).1
    have hplace := hinside.viable hp hr.sound.1
    unfold lookedAt
    split
    · exact hfurthest
    · rcases Nat.le_total r.furthest r.current.top.place with hle | hle
      · rwa [Nat.max_eq_right hle]
      · rwa [Nat.max_eq_left hle]
  refine hlooked r h ?_
  refine h.induction
    (P := fun r => Viable p.grammar p.input (Proper ps) p.table.acceptItem r.furthest) ?_ ?_
  · exact viable_zero _ _ _ _
  · intro r r' hr hviable htakes
    rw [htakes.furthest_eq]
    exact hlooked r hr hviable

/-! ### What is viable is looked at -/

/-- What the rules behind a mark begin with can be read along a path of the choice tree. -/
theorem BuiltFrom.exists_path (hp : p.BuiltFrom ps) {rules : List Rule} {i k : Nat}
    (h : Begins p.grammar p.input (Proper ps) rules i k) {d : Dotted} {production : Production}
    (hs : Stationed ps q s) (hplace : s.top.place = i) (hd : Holds ps q d)
    (hproduction : ps[d.production]? = some production)
    (hrules : production.rules.drop d.dot = rules) :
    ∃ address t, p.nodeAt s address = some t ∧ t.top.place = k := by
  induction h generalizing s q d production with
  | stop => exact ⟨[], s, rfl, hplace⟩
  | cons hhead _ ih =>
    obtain ⟨hnext, hrest⟩ := nextRule_of_drop hproduction hrules
    obtain ⟨s', q', hreads, hs', hd'⟩ := hp.reads (fun _ h => h) hhead hs hplace hd hnext
    obtain ⟨first, hfirst⟩ := hreads.path
    obtain ⟨second, t, hsecond, ht⟩ := ih hs' hreads.place hd' hproduction hrest
    refine ⟨first ++ second, t, ?_, ht⟩
    rw [nodeAt_append, hfirst]
    exact hsecond
  | enter hproper _ ih =>
    obtain ⟨hnext, -⟩ := nextRule_of_drop hproduction hrules
    obtain ⟨number, hnumber, hget⟩ := hproper
    exact ih hs hplace (hd.predicted hnext hnumber hget) hget rfl

/-- A node of an exhausted tree comes, by reductions, to an action that looks at its place. -/
theorem Exhausted.place_le (hp : p.BuiltFrom ps) (h : p.Exhausted t) (hsound : p.Sound t)
    {qs : List Nat} (hinside : p.Inside ps t.stack qs) (hsurveyed : p.Surveyed furthest t) :
    t.top.place ≤ furthest := by
  induction h generalizing qs with
  | @intro t _ _ ih =>
    obtain ⟨q, _, -, hstate, -⟩ := hinside.top
    obtain ⟨a, -, hselected⟩ := hstate.exists_selected
    have hlength : 0 < t.top.untried.length := by
      obtain ⟨rest, huntried⟩ := List.head?_eq_some_iff.1 hselected
      simp [huntried]
    cases a with
    | reduce production =>
      obtain ⟨next, hmoves⟩ := hinside.exists_moves hp hsound hselected
      have hplace : next.top.place = t.top.place := by
        cases hmoves with
        | shift hshift => cases hselected.symm.trans hshift
        | reduce => rfl
      have hbranch : p.branch t 0 = some (.node next) := branch_node_iff.2 ⟨hlength, hmoves⟩
      obtain ⟨_, hnext⟩ := hinside.moves hp hmoves
      rw [← hplace]
      exact ih 0 next hbranch (hsound.moves hmoves) hnext (hsurveyed.child hbranch)
    | _ =>
      have hlooked := hsurveyed [] t 0 rfl hlength
      rw [selecting_zero] at hlooked
      simpa [lookedAt, hselected] using hlooked

/-- A viable part of the input ends no further than an exhausted tree has been looked at. -/
theorem BuiltFrom.le_of_viable (hp : p.BuiltFrom ps) (hexhausted : p.Exhausted p.root)
    (hsurveyed : p.Surveyed furthest p.root) {k : Nat}
    (h : Viable p.grammar p.input (Proper ps) p.table.acceptItem k) : k ≤ furthest := by
  obtain ⟨symbols, rest, hform, hspells⟩ := h
  have hbegins := begins_of_rewrites hform hspells
  have hroot : Stationed ps 0 p.root := by
    refine ⟨[], [], ?_⟩
    rw [List.nil_append, List.append_nil]
    exact hp.following_zero
  obtain ⟨address, t, ht, rfl⟩ := hp.exists_path hbegins hroot rfl holds_zero hp.start_eq rfl
  obtain ⟨hsound, qs, hinside⟩ : p.Sound t ∧ ∃ qs, p.Inside ps t.stack qs := by
    refine nodeAt_induction (I := fun s => p.Sound s ∧ ∃ qs, p.Inside ps s.stack qs) ?_ ?_
      ⟨p.sound_root, _, hp.inside_root⟩ ht
    · rintro s next ⟨hsound, _, hinside⟩ hmoves
      exact ⟨hsound.moves hmoves, hinside.moves hp hmoves⟩
    · rintro s next ⟨hsound, _, hinside⟩ hadvance
      exact ⟨hsound.advance hadvance, hinside.advance hp hadvance⟩
  have hbelow : p.Surveyed furthest t := by
    intro more u i hu
    refine hsurveyed (address ++ more) u i ?_
    rw [nodeAt_append, ht]
    exact hu
  exact (hexhausted.nodeAt ht).place_le hp hsound hinside hbelow

/-- The place that a rejection names tells what it says. -/
theorem rejection_cases {k : Nat} (hk : k ≤ p.input.size) :
    (∃ t, p.input.ahead k = some t ∧ p.rejection k = .rejected t.text t.position) ∨
      k = p.input.size ∧ p.rejection k = .unexpectedEnd p.input.lastPosition := by
  cases hahead : p.input.ahead k with
  | some t => exact .inl ⟨t, rfl, by simp [rejection, hahead]⟩
  | none =>
    have hsize := TokenStream.size_le_of_ahead_eq_none hahead
    exact .inr ⟨by omega, by simp [rejection, hahead]⟩

/-- **A rejection names the longest viable part of the input.** Over a table built from a grammar,
and as long as no checkpoint gives way, a rejected search has found the greatest place up to which
the tokens can begin what the start item derives by the flat productions. It names the token there,
and the position of the last token if all tokens are viable. -/
theorem rejected_at_longest_viable {start : String} {built : BuiltTable}
    (hbuilt : withStart p.grammar start = .ok built) (htable : p.table = built.table)
    (hhorizon : 1 ≤ p.horizon) {limit : Option Nat} (hkeeps : p.KeepsAllWithin limit)
    {e : ParseFailure} (he : e.isRejection = true) (h : p.Ends limit (.error e)) :
    ∃ k, IsGreatest {k | k ≤ p.input.size ∧
        Viable p.grammar p.input (· ∈ built.productions) start k} k ∧
      ((∃ t, p.input.ahead k = some t ∧ e = .rejected t.text t.position) ∨
        k = p.input.size ∧ e = .unexpectedEnd p.input.lastPosition) := by
  obtain ⟨hp, -, rfl⟩ := builtFrom_of_table hbuilt htable
  obtain ⟨place, ⟨n, r, hn, hr, hout, rfl⟩, rfl, hle⟩ := h.exists_rejectsAt he
  have hreachable : p.Reachable r := ⟨n, hr⟩
  have hended : p.advance (n + 1) p.start = .ended (.error _) :=
    advance_eq_ended_of_step (Nat.lt_succ_self n) hr hout.stops.step_eq
  have hall : p.KeepsAll := hkeeps.keepsAll hended hn
  obtain ⟨event, hstuck⟩ := hout.stuck
  have hexhausted := exhausted_of_rejection hhorizon hall hreachable hstuck hout.none_left
  have hsurveyed := surveyed_of_outOfBranches hhorizon hall hr hout
  refine ⟨_, ⟨⟨hle, ?_⟩, ?_⟩, rejection_cases hle⟩
  · rw [← @proper_numbered _ p.table.acceptItem]
    exact hreachable.viable_lookedAt hp
  · rintro k ⟨-, hviable⟩
    rw [← @proper_numbered _ p.table.acceptItem] at hviable
    exact hp.le_of_viable hexhausted hsurveyed hviable

end Problem

end Library

namespace Problem

/-- Two openings without a closing are viable to their end, where they are rejected. -/
theorem rejected_at_longest_viable_unclosed :
    withStart nested "S" = .ok nestedTable ∧
      Problem.KeepsAllWithin ⟨nested, nestedTable.table, unclosed, 100⟩ (some 20) ∧
      Problem.Ends ⟨nested, nestedTable.table, unclosed, 100⟩ (some 20)
        (.error (.unexpectedEnd ⟨1, 2⟩)) ∧
      IsGreatest {k | k ≤ unclosed.size ∧
        Viable nested unclosed (· ∈ nestedTable.productions) "S" k} 2 := by
  have hbuilt : withStart nested "S" = .ok nestedTable := withStart_nested
  have hended : Problem.advance ⟨nested, nestedTable.table, unclosed, 100⟩ 20
      (Problem.start ⟨nested, nestedTable.table, unclosed, 100⟩) =
      .ended (.error (.unexpectedEnd ⟨1, 2⟩)) := rfl
  have hkeeps := (keepsAll_of_ended hended (by decide)).within (some 20)
  have hends : Problem.Ends ⟨nested, nestedTable.table, unclosed, 100⟩ (some 20)
      (.error (.unexpectedEnd ⟨1, 2⟩)) := rfl
  obtain ⟨k, hk, ⟨_, _, he⟩ | ⟨rfl, -⟩⟩ :=
    rejected_at_longest_viable hbuilt rfl (by decide) hkeeps rfl hends
  · cases he
  · exact ⟨hbuilt, hkeeps, hends, hk⟩

end Problem

end BranchLR
