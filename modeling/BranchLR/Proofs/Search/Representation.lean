import BranchLR.Proofs.Derivation
import BranchLR.Proofs.Search.Candidates
import BranchLR.Proofs.Search.Reachable

/-!
# What the stack and the forest stand for

Above the bottom every entry of a stack has one root of the forest, and the root derives the tokens
between the place of the entry below and the entry's own place. A reduction takes as many roots as
its production has rules, so the forest is never too short. Actions that fail change nothing, and
backtracking restores a stack together with its forest, so this holds of every snapshot in every
search, whatever the table says.
-/

namespace BranchLR

variable [RegexLibrary]

/-- The productions that some action of a table reduces by. -/
def Table.Reduces (t : Table) (production : Production) : Prop := t.Offers (.reduce production)

namespace Problem

variable {p : Problem} {s next : Snapshot}

/-- The root that belongs to a symbol and derives the tokens between two places. -/
inductive Stands (p : Problem) : Symbol → Nat → Nat → Node → Prop
  | terminal {i : Nat} {t : Token} (hahead : p.input.ahead i = some t) :
      Stands p (.terminal t) i (i + 1) (.leaf t.text)
  | endOfInput : Stands p .endOfInput p.input.size p.input.size .endOfInput
  | reduced {production : Production} {i j : Nat} {children : List Node}
      (hreduces : p.table.Reduces production)
      (hchildren : DerivesAll p.grammar p.input p.table.Reduces production.rules i j children) :
      Stands p (.reduced production.item) i j (.parent production.item children)

/-- The entries from the top down with their roots, the newest first. -/
inductive Represents (p : Problem) : List Entry → List Node → Prop
  | bottom {e : Entry} (hsymbol : e.symbol = .bottom) (hplace : e.place = 0) : Represents p [e] []
  | push {e below : Entry} {rest : List Entry} {n : Node} {ns : List Node}
      (hbelow : Represents p (below :: rest) ns)
      (hstands : p.Stands e.symbol below.place e.place n) :
      Represents p (e :: below :: rest) (n :: ns)

/-- A snapshot whose forest stands for its stack and whose candidates come from the table. -/
structure Sound (p : Problem) (s : Snapshot) : Prop where
  represents : p.Represents s.stack s.forest.newestFirst
  offered : ∀ e ∈ s.stack, ∀ a ∈ e.candidates, p.table.Offers a

/-- The root of a symbol derives its range from every rule that stands for the symbol. -/
theorem Stands.derives {rule : Rule} {symbol : Symbol} {i j : Nat} {n : Node}
    (h : p.Stands symbol i j n) (hmatch : rule.recognises p.grammar symbol = true) :
    Derives p.grammar p.input p.table.Reduces rule i j n := by
  cases h with
  | terminal hahead => exact .token hahead hmatch
  | endOfInput =>
    cases rule <;> first | exact .endOfInput | simp [Rule.recognises] at hmatch
  | @reduced production _ _ _ hreduces hchildren =>
    cases rule with
    | item name =>
      obtain rfl : name = production.item := by simpa [Rule.recognises] using hmatch
      exact .parent hreduces hchildren
    | _ => simp [Rule.recognises] at hmatch

theorem Stands.le_size {symbol : Symbol} {i j : Nat} {n : Node} (h : p.Stands symbol i j n)
    (hi : i ≤ p.input.size) : j ≤ p.input.size := by
  cases h with
  | terminal hahead => exact TokenStream.lt_size_of_ahead hahead
  | endOfInput => exact Nat.le_refl _
  | reduced _ hchildren => exact hchildren.le_size hi

/-- The rules that the entries on top stand for derive, by the roots of these entries, the tokens
behind the entry that is left. -/
theorem Represents.covered {rules : List Rule} {e base : Entry} {rest below : List Entry}
    {ns : List Node} (h : p.Represents (e :: rest) ns)
    (hcovers : covers p.grammar rules (e :: rest) = .ok true)
    (hbase : (e :: rest).drop rules.length = base :: below) :
    (ns.take rules.length).length = rules.length ∧
      DerivesAll p.grammar p.input p.table.Reduces rules.reverse base.place e.place
        (ns.take rules.length).reverse ∧
      p.Represents (base :: below) (ns.drop rules.length) := by
  induction rules generalizing e rest ns with
  | nil =>
    simp only [List.length_nil, List.drop_zero, List.cons.injEq] at hbase
    obtain ⟨rfl, rfl⟩ := hbase
    exact ⟨rfl, .nil, h⟩
  | cons rule rules ih =>
    simp only [List.length_cons, List.drop_succ_cons] at hbase
    obtain ⟨-, hmatch, hcovers⟩ := covers_cons_eq_true_iff.1 hcovers
    cases h with
    | bottom => simp at hbase
    | push hbelow hstands =>
      obtain ⟨hlength, hderives, hrest⟩ := ih hbelow hcovers hbase
      refine ⟨by simpa using hlength, ?_, by simpa using hrest⟩
      simp only [List.length_cons, List.take_succ_cons, List.reverse_cons]
      exact hderives.append (.cons (hstands.derives hmatch) .nil)

theorem sound_root (p : Problem) : p.Sound p.root := by
  refine ⟨.bottom rfl rfl, fun e he a ha => .initial ?_⟩
  obtain rfl := List.mem_singleton.1 he
  simpa [Entry.candidates, root] using ha

/-- No entry stands behind the last token. -/
theorem Represents.place_le {e : Entry} {rest : List Entry} {ns : List Node}
    (h : p.Represents (e :: rest) ns) : e.place ≤ p.input.size := by
  generalize hstack : e :: rest = stack at h
  induction h generalizing e rest with
  | bottom _ hplace =>
    cases hstack
    omega
  | push _ hstands ih =>
    cases hstack
    exact hstands.le_size (ih rfl)

/-- A forest that stands for a stack has a root for every entry but the bottom. -/
theorem Represents.length_eq {stack : List Entry} {ns : List Node} (h : p.Represents stack ns) :
    stack.length = ns.length + 1 := by
  induction h with
  | bottom => rfl
  | push _ _ ih => simp [ih]

/-- What a stack stands for does not depend on the candidates of its top entry. -/
theorem Represents.of_top_eq {e e' : Entry} {rest : List Entry} {ns : List Node}
    (h : p.Represents (e :: rest) ns) (hsymbol : e'.symbol = e.symbol) (hplace : e'.place = e.place) :
    p.Represents (e' :: rest) ns := by
  cases h with
  | bottom hs hp => exact .bottom (hsymbol.trans hs) (hplace.trans hp)
  | push hbelow hstands => exact .push hbelow (by rwa [hsymbol, hplace])

/-- A move keeps stack and forest together. -/
theorem Sound.moves (h : p.Sound s) (hmoves : p.Moves s next) : p.Sound next := by
  cases hmoves with
  | @shift row place guards symbol node actions _ hrow hnext hactions _ =>
    have hstands : p.Stands symbol s.top.place place node := by
      cases hnext with
      | token hahead => exact .terminal hahead
      | atEnd hahead =>
        have hplace : s.top.place = p.input.size :=
          Nat.le_antisymm h.represents.place_le (TokenStream.size_le_of_ahead_eq_none hahead)
        rw [hplace]
        exact .endOfInput
    refine ⟨.push h.represents hstands, fun e he a ha => ?_⟩
    rcases List.mem_cons.1 he with rfl | he
    · exact Table.offers_of_candidates hrow hactions a (by simpa [Entry.candidates] using ha)
    · exact h.offered e he a ha
  | @reduce production base below row guards actions forest hselected hbase hcovers _ hrow hactions
      _ hforest =>
    have hreduces : p.table.Reduces production := by
      refine h.offered s.top List.mem_cons_self _ ?_
      exact List.mem_append_right _ (List.mem_of_head? hselected)
    obtain ⟨hlength, hchildren, hrest⟩ :=
      h.represents.covered hcovers (by rwa [List.length_reverse])
    rw [List.reverse_reverse] at hchildren
    simp only [List.length_reverse] at hlength hchildren hrest
    have hroots : forest.newestFirst =
        .parent production.item (s.forest.newestFirst.take production.rules.length).reverse ::
          s.forest.newestFirst.drop production.rules.length := by
      simp only [Forest.reduce?, hlength, if_true, Option.some.injEq] at hforest
      rw [← hforest]
    refine ⟨?_, fun e he a ha => ?_⟩
    · show p.Represents (_ :: base :: below) forest.newestFirst
      rw [hroots]
      exact .push hrest (.reduced hreduces hchildren)
    · rcases List.mem_cons.1 he with rfl | he
      · exact Table.offers_of_candidates hrow hactions a (by simpa [Entry.candidates] using ha)
      · exact h.offered e (List.mem_of_mem_drop (hbase ▸ he)) a ha

/-- Selecting the next candidate changes neither the forest nor what the entries stand for. -/
theorem Sound.advance (h : p.Sound s) (hadvance : s.advance? = some next) : p.Sound next := by
  obtain ⟨a, b, rest, huntried, rfl⟩ := Snapshot.advance?_eq_some_iff.1 hadvance
  refine ⟨h.represents.of_top_eq rfl rfl, fun e he c hc => ?_⟩
  rcases List.mem_cons.1 he with rfl | he
  · refine h.offered s.top List.mem_cons_self c ?_
    simpa [Entry.candidates, huntried, or_left_comm, or_comm, or_assoc] using hc
  · exact h.offered e (List.mem_cons_of_mem _ he) c hc

/-- Every snapshot of every search is sound. -/
theorem Reachable.sound {r : Run} (h : p.Reachable r) :
    p.Sound r.current ∧ ∀ s ∈ r.saved.newestFirst, p.Sound s :=
  h.snapshots p.sound_root (fun _ _ => Sound.moves) (fun _ _ => Sound.advance)

end Problem

end BranchLR
