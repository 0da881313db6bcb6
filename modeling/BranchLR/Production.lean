import BranchLR.Grammar
import BranchLR.GrammarText.Printer

/-!
# Flat productions

Tables are built from productions whose rules are single symbols. An alternative with brackets
stands for several of them. An optional bracket leaves a choice between its contents and nothing; a
repeated bracket leaves a choice between nothing and a new item, its helper, which is left-recursive
over the contents. The empty match cuts off the rest of the sequence it stands in.
-/

namespace BranchLR

variable [RegexLibrary]

/-- An item and one flat right-hand side of it. -/
structure Production where
  item : String
  rules : List Rule
  deriving DecidableEq

/-- A production as it is shown. -/
def Production.render (p : Production) : String :=
  match p.rules with
  | [] => p.item ++ ": \x7bEMPTY\x7d"
  | rules => p.item ++ ": " ++ Rule.renderAll rules

/-- What a rule or a sequence of rules comes to when its brackets are resolved. -/
structure Flattening where
  /-- The flat sequences it stands for, each once. -/
  variants : List (List Rule)
  /-- The productions of the helpers it needs. -/
  helpers : List Production
  /-- The number of helpers its owner has so far. -/
  count : Nat

/-- Every sequence of the first list followed by every one of the second, each once. -/
def joinVariants (heads tails : List (List Rule)) : List (List Rule) :=
  (heads.flatMap fun head => tails.map (head ++ ·)).eraseDups

/-- The name of a helper. -/
def helperName (owner : String) (k : Nat) : String := owner ++ "#" ++ toString k

/-- The productions of a helper: each body on its own, then each body after the helper itself. -/
def helperProductions (name : String) (bodies : List (List Rule)) : List Production :=
  bodies.map (⟨name, ·⟩) ++ bodies.map fun body => ⟨name, .item name :: body⟩

/-- A repeated bracket whose contents are flattened. Empty contents repeat to nothing, so they need
no production, and without any other contents there is no helper. -/
def Flattening.repeatedBy (owner : String) (f : Flattening) : Flattening :=
  match f.variants.filter fun body => !body.isEmpty with
  | [] => ⟨[[]], f.helpers, f.count⟩
  | bodies =>
    let name := helperName owner (f.count + 1)
    ⟨[[], [.item name]], f.helpers ++ helperProductions name bodies, f.count + 1⟩

mutual

/-- Flattens one rule of an owner that has the given number of helpers. -/
def Rule.flatten (owner : String) (count : Nat) : Rule → Flattening
  | .optional body =>
    let f := Rule.flattenAll owner count body
    { f with variants := [] :: f.variants }
  | .repeated body => (Rule.flattenAll owner count body).repeatedBy owner
  | r => ⟨[[r]], [], count⟩

/-- Flattens a sequence of rules of an owner that has the given number of helpers. -/
def Rule.flattenAll (owner : String) (count : Nat) : List Rule → Flattening
  | [] => ⟨[[]], [], count⟩
  | .empty :: _ => ⟨[[]], [], count⟩
  | r :: rest =>
    let f := r.flatten owner count
    let g := Rule.flattenAll owner f.count rest
    ⟨joinVariants f.variants g.variants, f.helpers ++ g.helpers, g.count⟩

end

/-- The productions of some alternatives of an item that has the given number of helpers. The
helpers of an alternative come before the alternative itself. -/
def alternativeProductions (owner : String) (count : Nat) : List (List Rule) → List Production
  | [] => []
  | alternative :: rest =>
    let f := Rule.flattenAll owner count alternative
    f.helpers ++ f.variants.map (⟨owner, ·⟩) ++ alternativeProductions owner f.count rest

/-- The productions of an item; a token has none. -/
def Item.productions (item : Item) : List Production :=
  if item.isToken then [] else alternativeProductions item.name 0 item.alternatives

/-- The flat productions of a grammar, each once. -/
def Grammar.productions (g : Grammar) : List Production :=
  (g.items.flatMap Item.productions).eraseDups

end BranchLR
