import BranchLR.Search.Step

/-!
# Derivation trees over tokens

A rule derives a range of the input when a tree can be written down for it: a leaf for a single
token that the rule stands for, a leaf for the end of the input, or a parent over the trees of a
production. Which productions may be used is a parameter. The tokens below a tree are exactly those
of its range.
-/

namespace BranchLR

/-- The texts of the tokens between two places. -/
def TokenStream.texts (input : TokenStream) (i j : Nat) : List String :=
  ((input.tokens.extract i j).map Token.text).toList

namespace TokenStream

variable {input : TokenStream} {i j k : Nat}

/-- No token stands between a place and itself. -/
theorem texts_self (input : TokenStream) (i : Nat) : input.texts i i = [] := by
  simp [texts]

/-- The texts of adjacent ranges stand side by side. -/
theorem texts_append (hij : i ≤ j) (hjk : j ≤ k) :
    input.texts i j ++ input.texts j k = input.texts i k := by
  have hextract : input.tokens.extract i j ++ input.tokens.extract j k =
      input.tokens.extract i k := by
    rw [Array.extract_append_extract, Nat.min_eq_left hij, Nat.max_eq_right hjk]
  simp only [texts, ← hextract, Array.map_append, Array.toList_append]

/-- The range of one place is the token ahead of it. -/
theorem texts_of_ahead {t : Token} (h : input.ahead i = some t) :
    input.texts i (i + 1) = [t.text] := by
  obtain ⟨hi, hget⟩ := Array.getElem?_eq_some_iff.1 h
  have hextract : input.tokens.extract i (i + 1) = #[t] := by
    rw [Array.extract_succ_right (by omega) hi, hget,
      Array.extract_empty_of_stop_le_start (Nat.le_refl i)]
    rfl
  simp [texts, hextract]

theorem lt_size_of_ahead {t : Token} (h : input.ahead i = some t) : i < input.size :=
  (Array.getElem?_eq_some_iff.1 h).1

theorem size_le_of_ahead_eq_none (h : input.ahead i = none) : input.size ≤ i :=
  Array.getElem?_eq_none_iff.1 h

end TokenStream

variable [RegexLibrary]

mutual

/-- `Derives g input admits rule i j n`: the tree `n` derives the tokens from place `i` to place `j`
from a rule, by admitted productions. -/
inductive Derives (g : Grammar) (input : TokenStream) (admits : Production → Prop) :
    Rule → Nat → Nat → Node → Prop
  | token {rule : Rule} {i : Nat} {t : Token} (hahead : input.ahead i = some t)
      (hmatch : rule.recognises g (.terminal t) = true) :
      Derives g input admits rule i (i + 1) (.leaf t.text)
  | endOfInput : Derives g input admits .endOfInput input.size input.size .endOfInput
  | parent {production : Production} {i j : Nat} {children : List Node}
      (hadmits : admits production)
      (hchildren : DerivesAll g input admits production.rules i j children) :
      Derives g input admits (.item production.item) i j (.parent production.item children)

/-- The trees derive consecutive ranges, which together go from place `i` to place `j`, one from
each rule. -/
inductive DerivesAll (g : Grammar) (input : TokenStream) (admits : Production → Prop) :
    List Rule → Nat → Nat → List Node → Prop
  | nil {i : Nat} : DerivesAll g input admits [] i i []
  | cons {rule : Rule} {rules : List Rule} {i j k : Nat} {n : Node} {ns : List Node}
      (hhead : Derives g input admits rule i j n)
      (htail : DerivesAll g input admits rules j k ns) :
      DerivesAll g input admits (rule :: rules) i k (n :: ns)

end

section

variable {g : Grammar} {input : TokenStream} {admits : Production → Prop}

mutual

/-- The tokens below a derivation tree are those of its range. -/
theorem Derives.leaves_eq {rule : Rule} {i j : Nat} {n : Node} :
    Derives g input admits rule i j n → i ≤ j ∧ n.leaves = input.texts i j
  | .token hahead _ => by
    refine ⟨Nat.le_succ _, ?_⟩
    rw [TokenStream.texts_of_ahead hahead, Node.leaves]
  | .endOfInput => by
    refine ⟨Nat.le_refl _, ?_⟩
    rw [TokenStream.texts_self, Node.leaves]
  | .parent _ hchildren => by
    rw [Node.leaves]
    exact hchildren.leaves_eq

/-- The tokens below consecutive derivation trees are those of the whole range. -/
theorem DerivesAll.leaves_eq {rules : List Rule} {i j : Nat} {ns : List Node} :
    DerivesAll g input admits rules i j ns → i ≤ j ∧ Node.leavesAll ns = input.texts i j
  | .nil => by
    refine ⟨Nat.le_refl _, ?_⟩
    rw [TokenStream.texts_self, Node.leavesAll]
  | .cons hhead htail => by
    obtain ⟨hij, hn⟩ := hhead.leaves_eq
    obtain ⟨hjk, hns⟩ := htail.leaves_eq
    refine ⟨Nat.le_trans hij hjk, ?_⟩
    rw [Node.leavesAll, hn, hns, TokenStream.texts_append hij hjk]

end

mutual

/-- A derivation that begins inside the input ends inside it. -/
theorem Derives.le_size {rule : Rule} {i j : Nat} {n : Node} (hi : i ≤ input.size) :
    Derives g input admits rule i j n → j ≤ input.size
  | .token hahead _ => TokenStream.lt_size_of_ahead hahead
  | .endOfInput => Nat.le_refl _
  | .parent _ hchildren => hchildren.le_size hi

theorem DerivesAll.le_size {rules : List Rule} {i j : Nat} {ns : List Node} (hi : i ≤ input.size) :
    DerivesAll g input admits rules i j ns → j ≤ input.size
  | .nil => hi
  | .cons hhead htail => htail.le_size (hhead.le_size hi)

end

/-- Derivations of two sequences side by side derive the sequence of both. -/
theorem DerivesAll.append {as bs : List Rule} {i j k : Nat} {ms ns : List Node}
    (has : DerivesAll g input admits as i j ms) (hbs : DerivesAll g input admits bs j k ns) :
    DerivesAll g input admits (as ++ bs) i k (ms ++ ns) := by
  induction as generalizing i ms with
  | nil =>
    cases has
    exact hbs
  | cons a as ih =>
    cases has with
    | cons hhead htail => exact .cons hhead (ih htail)

end

end BranchLR
