import Mathlib.Logic.Relation
import BranchLR.Proofs.Derivation

/-!
# Sentential forms that begin with tokens

A sequence of rules is rewritten by replacing one of its items by the rules of a production. A
sequence that can be rewritten to symbols for the tokens of a range, followed by anything, may be
one of many, so it is also described by its structure: the first rules derive parts of the range,
and one last rule is entered but need not be completed. Derivation trees give sentential forms in
return. The end of the input is a symbol for no token, so it can only stand behind the symbols of a
range.
-/

namespace BranchLR

open Relation

variable [RegexLibrary]

/-- One item in a sequence of rules is replaced by the rules of an admitted production. -/
inductive Rewrites (admits : Production → Prop) : List Rule → List Rule → Prop
  | replace (before after : List Rule) {production : Production} (hadmits : admits production) :
      Rewrites admits (before ++ .item production.item :: after)
        (before ++ (production.rules ++ after))

/-- The symbols stand one by one for the tokens between two places. -/
inductive Spells (g : Grammar) (input : TokenStream) : List Rule → Nat → Nat → Prop
  | nil {i : Nat} : Spells g input [] i i
  | cons {X : Rule} {symbols : List Rule} {i j : Nat} {t : Token}
      (hahead : input.ahead i = some t) (hmatch : X.recognises g (.terminal t) = true)
      (hrest : Spells g input symbols (i + 1) j) : Spells g input (X :: symbols) i j

/-- The rules derive the tokens between two places and perhaps more. The rules in front derive parts
of the range, and the last part is derived by one more rule or by the beginning of its production.
-/
inductive Begins (g : Grammar) (input : TokenStream) (admits : Production → Prop) :
    List Rule → Nat → Nat → Prop
  | stop {rules : List Rule} {i : Nat} : Begins g input admits rules i i
  | cons {X : Rule} {rules : List Rule} {i j k : Nat} {n : Node}
      (hhead : Derives g input admits X i j n) (hrest : Begins g input admits rules j k) :
      Begins g input admits (X :: rules) i k
  | enter {production : Production} {rules : List Rule} {i k : Nat} (hadmits : admits production)
      (hbody : Begins g input admits production.rules i k) :
      Begins g input admits (.item production.item :: rules) i k

variable {g : Grammar} {input : TokenStream} {admits : Production → Prop}

/-! ### Rewriting inside a longer sequence -/

theorem Rewrites.append_left {u v : List Rule} (h : Rewrites admits u v) (front : List Rule) :
    Rewrites admits (front ++ u) (front ++ v) := by
  cases h with
  | replace before after hadmits =>
    have hreplace := Rewrites.replace (front ++ before) after hadmits
    rwa [List.append_assoc, List.append_assoc] at hreplace

theorem Rewrites.append_right {u v : List Rule} (h : Rewrites admits u v) (back : List Rule) :
    Rewrites admits (u ++ back) (v ++ back) := by
  cases h with
  | replace before after hadmits =>
    have hreplace := Rewrites.replace before (after ++ back) hadmits
    simpa [List.append_assoc] using hreplace

theorem rewrites_append_left {u v : List Rule} (h : ReflTransGen (Rewrites admits) u v)
    (front : List Rule) : ReflTransGen (Rewrites admits) (front ++ u) (front ++ v) :=
  h.lift (front ++ ·) fun _ _ hstep => hstep.append_left front

theorem rewrites_append_right {u v : List Rule} (h : ReflTransGen (Rewrites admits) u v)
    (back : List Rule) : ReflTransGen (Rewrites admits) (u ++ back) (v ++ back) :=
  h.lift (· ++ back) fun _ _ hstep => hstep.append_right back

theorem Rewrites.mono {more : Production → Prop}
    (hmore : ∀ production, admits production → more production) {u v : List Rule}
    (h : Rewrites admits u v) : Rewrites more u v := by
  cases h with
  | replace before after hadmits => exact .replace before after (hmore _ hadmits)

/-! ### From sentential forms to their structure -/

/-- Symbols that stand for the tokens of a range begin with it. -/
theorem Spells.begins {symbols rest : List Rule} {i j : Nat} (h : Spells g input symbols i j) :
    Begins g input admits (symbols ++ rest) i j := by
  induction h with
  | nil => exact .stop
  | cons hahead hmatch _ ih => exact .cons (.token hahead hmatch) ih

/-- The range of two sequences side by side ends in the first, or the first derives a part of it. -/
theorem Begins.of_append {as bs : List Rule} {i k : Nat}
    (h : Begins g input admits (as ++ bs) i k) :
    Begins g input admits as i k ∨
      ∃ j ns, DerivesAll g input admits as i j ns ∧ Begins g input admits bs j k := by
  induction as generalizing i with
  | nil => exact .inr ⟨i, [], .nil, h⟩
  | cons a as ih =>
    cases h with
    | stop => exact .inl .stop
    | cons hhead hrest =>
      rcases ih hrest with hfirst | ⟨j, ns, hall, hsecond⟩
      · exact .inl (.cons hhead hfirst)
      · exact .inr ⟨j, _, .cons hhead hall, hsecond⟩
    | enter hadmits hbody => exact .inl (.enter hadmits hbody)

/-- What begins with a range after a rewriting began with it before. -/
theorem Begins.of_rewrites {u v : List Rule} {i k : Nat} (hstep : Rewrites admits u v)
    (h : Begins g input admits v i k) : Begins g input admits u i k := by
  cases hstep with
  | replace before after hadmits =>
    induction before generalizing i with
    | nil =>
      rw [List.nil_append] at h
      rcases h.of_append with hbody | ⟨j, ns, hall, hrest⟩
      · exact .enter hadmits hbody
      · exact .cons (.parent hadmits hall) hrest
    | cons X before ih =>
      cases h with
      | stop => exact .stop
      | cons hhead hrest => exact .cons hhead (ih hrest)
      | enter hadmits' hbody => exact .enter hadmits' hbody

/-- A sequence that can be rewritten to symbols for a range, followed by anything, begins with the
range. -/
theorem begins_of_rewrites {u symbols rest : List Rule} {i k : Nat}
    (h : ReflTransGen (Rewrites admits) u (symbols ++ rest))
    (hspells : Spells g input symbols i k) :
    Begins g input admits u i k := by
  induction h using ReflTransGen.head_induction_on with
  | refl => exact hspells.begins
  | head hstep _ ih => exact ih.of_rewrites hstep

/-! ### From derivation trees to sentential forms -/

theorem Spells.append {as bs : List Rule} {i j k : Nat} (has : Spells g input as i j)
    (hbs : Spells g input bs j k) : Spells g input (as ++ bs) i k := by
  induction has with
  | nil => exact hbs
  | cons hahead hmatch _ ih => exact .cons hahead hmatch (ih hbs)

/-- A rewritten sequence begins with symbols for a range. What is behind them stands for no tokens:
there is nothing, or the input has come to its end. -/
def Reaches (g : Grammar) (input : TokenStream) (admits : Production → Prop) (u : List Rule)
    (i j : Nat) : Prop :=
  ∃ symbols rest, ReflTransGen (Rewrites admits) u (symbols ++ rest) ∧
    Spells g input symbols i j ∧ (rest = [] ∨ j = input.size)

theorem Reaches.append {as bs : List Rule} {i j k : Nat} (has : Reaches g input admits as i j)
    (hbs : Reaches g input admits bs j k) (hjk : j ≤ k) (hk : k ≤ input.size) :
    Reaches g input admits (as ++ bs) i k := by
  obtain ⟨first, rest, hfirst, hspells, hrest⟩ := has
  obtain ⟨second, more, hsecond, hspells', hmore⟩ := hbs
  rcases hrest with rfl | hend
  · rw [List.append_nil] at hfirst
    refine ⟨first ++ second, more, ?_, hspells.append hspells', hmore⟩
    rw [List.append_assoc]
    exact (rewrites_append_right hfirst bs).trans (rewrites_append_left hsecond first)
  · -- At the end of the input the second sequence has nothing to add.
    have hjk : j = k := by omega
    subst hjk
    refine ⟨first, rest ++ bs, ?_, hspells, .inr hend⟩
    rw [← List.append_assoc]
    exact rewrites_append_right hfirst bs

mutual

/-- A derivation tree over a range gives a sentential form that begins with the range. -/
theorem Derives.reaches {X : Rule} {i j : Nat} {n : Node} (hi : i ≤ input.size) :
    Derives g input admits X i j n → Reaches g input admits [X] i j
  | .token hahead hmatch => ⟨[X], [], .refl, .cons hahead hmatch .nil, .inl rfl⟩
  | .endOfInput => ⟨[], [.endOfInput], .refl, .nil, .inr rfl⟩
  | @Derives.parent _ _ _ _ production _ _ _ hadmits hchildren => by
    obtain ⟨symbols, rest, hrewrites, hspells, hrest⟩ := hchildren.reaches hi
    have hstep : Rewrites admits [.item production.item] production.rules := by
      simpa using Rewrites.replace [] [] hadmits
    exact ⟨symbols, rest, .head hstep hrewrites, hspells, hrest⟩

theorem DerivesAll.reaches {rules : List Rule} {i j : Nat} {ns : List Node} (hi : i ≤ input.size) :
    DerivesAll g input admits rules i j ns → Reaches g input admits rules i j
  | .nil => ⟨[], [], .refl, .nil, .inl rfl⟩
  | .cons hhead htail => by
    have hj := hhead.le_size hi
    have hk := htail.le_size hj
    obtain ⟨hjk, -⟩ := htail.leaves_eq
    exact (hhead.reaches hi).append (htail.reaches hj) hjk hk

end

end BranchLR
