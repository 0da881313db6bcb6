import BranchLR.Proofs.Flattening.Flat

/-!
# Repeated groups and their helpers

Every repeated bracket with contents other than the empty sequence has a helper of its own. The
groups of an item are numbered in the order in which their helpers are introduced, an inner group
before the group around it. The flat productions of a grammar are those of its alternatives and those
of the helpers of its groups.
-/

namespace BranchLR

variable [RegexLibrary]

/-- A repeated bracket with its helper. -/
structure Group where
  /-- The name of the helper. -/
  name : String
  /-- What stands in the bracket. -/
  contents : List Rule
  /-- The flat sequences other than the empty one that the contents stand for. -/
  bodies : List (List Rule)

/-- The productions of the helper of a group. -/
def Group.productions (group : Group) : List Production :=
  helperProductions group.name group.bodies

/-- The group of a repeated bracket, unless there is nothing to repeat. -/
def Flattening.group (owner : String) (f : Flattening) (contents : List Rule) : List Group :=
  match f.variants.filter fun body => !body.isEmpty with
  | [] => []
  | bodies => [⟨helperName owner (f.count + 1), contents, bodies⟩]

mutual

/-- The groups in a rule of an owner that has the given number of helpers. -/
def Rule.groups (owner : String) (count : Nat) : Rule → List Group
  | .optional body => Rule.groupsAll owner count body
  | .repeated body =>
    Rule.groupsAll owner count body ++ (Rule.flattenAll owner count body).group owner body
  | _ => []

/-- The groups in a sequence of rules of an owner that has the given number of helpers. -/
def Rule.groupsAll (owner : String) (count : Nat) : List Rule → List Group
  | [] => []
  | .empty :: _ => []
  | r :: rest =>
    r.groups owner count ++ Rule.groupsAll owner (r.flatten owner count).count rest

end

/-- The alternatives of an owner, each with the number of helpers that its owner has before it. -/
def countedAlternatives (owner : String) (count : Nat) :
    List (List Rule) → List (Nat × List Rule)
  | [] => []
  | alternative :: rest =>
    (count, alternative) ::
      countedAlternatives owner (Rule.flattenAll owner count alternative).count rest

/-- The alternatives of an item with their numbers; a token has none. -/
def Item.counted (item : Item) : List (Nat × List Rule) :=
  if item.isToken then [] else countedAlternatives item.name 0 item.alternatives

/-- The groups of an item. -/
def Item.groups (item : Item) : List Group :=
  item.counted.flatMap fun (count, alternative) => Rule.groupsAll item.name count alternative

/-- The groups of a grammar. -/
def Grammar.groups (g : Grammar) : List Group := g.items.flatMap Item.groups

theorem Rule.groupsAll_cons {owner : String} {count : Nat} {r : Rule} {rest : List Rule}
    (h : r ≠ .empty) :
    Rule.groupsAll owner count (r :: rest) =
      r.groups owner count ++ Rule.groupsAll owner (r.flatten owner count).count rest := by
  cases r <;> first | rfl | exact absurd rfl h

theorem Rule.groups_of_isFlat {owner : String} {count : Nat} {r : Rule} (h : r.isFlat = true) :
    r.groups owner count = [] := by
  cases r <;> first | rfl | simp [Rule.isFlat] at h

/-! ### The helpers are those of the groups -/

/-- A repeated bracket adds the helper of its group. -/
theorem Flattening.helpers_repeatedBy (owner : String) (f : Flattening) (contents : List Rule) :
    (f.repeatedBy owner).helpers =
      f.helpers ++ (f.group owner contents).flatMap Group.productions := by
  unfold Flattening.repeatedBy Flattening.group
  cases f.variants.filter fun body => !body.isEmpty with
  | nil => simp
  | cons body bodies => simp [Group.productions]

mutual

theorem Rule.helpers_flatten (owner : String) (count : Nat) : ∀ r : Rule, r ≠ .empty →
    (r.flatten owner count).helpers = (r.groups owner count).flatMap Group.productions
  | .optional body, _ => Rule.helpers_flattenAll owner count body
  | .repeated body, _ => by
    rw [Rule.flatten, Flattening.helpers_repeatedBy owner _ body,
      Rule.helpers_flattenAll owner count body, Rule.groups, List.flatMap_append]
  | .item _, _ | .literal _, _ | .pattern _, _ | .endOfInput, _ => by
    rw [Rule.flatten_of_isFlat rfl, Rule.groups_of_isFlat rfl, List.flatMap_nil]

/-- The helper productions of a sequence are those of its groups. -/
theorem Rule.helpers_flattenAll (owner : String) (count : Nat) : ∀ rules : List Rule,
    (Rule.flattenAll owner count rules).helpers =
      (Rule.groupsAll owner count rules).flatMap Group.productions
  | [] => rfl
  | r :: rest => by
    by_cases hempty : r = .empty
    · subst hempty
      rfl
    · rw [Rule.flattenAll_cons hempty, Rule.groupsAll_cons hempty, List.flatMap_append,
        Rule.helpers_flatten owner count r hempty, Rule.helpers_flattenAll]

end

/-- Every alternative is counted. -/
theorem exists_mem_countedAlternatives_iff {owner : String} {count : Nat}
    {alternatives : List (List Rule)} {alternative : List Rule} :
    (∃ n, (n, alternative) ∈ countedAlternatives owner count alternatives) ↔
      alternative ∈ alternatives := by
  induction alternatives generalizing count with
  | nil => simp [countedAlternatives]
  | cons first rest ih =>
    simp only [countedAlternatives, List.mem_cons, Prod.mk.injEq, exists_or, ih]
    simp

/-- A production of an item is an alternative with its brackets resolved, or belongs to a helper. -/
theorem mem_alternativeProductions_iff {owner : String} {count : Nat}
    {alternatives : List (List Rule)} {p : Production} :
    p ∈ alternativeProductions owner count alternatives ↔
      ∃ choice ∈ countedAlternatives owner count alternatives,
        p.item = owner ∧ p.rules ∈ (Rule.flattenAll owner choice.1 choice.2).variants ∨
          ∃ group ∈ Rule.groupsAll owner choice.1 choice.2, p ∈ group.productions := by
  induction alternatives generalizing count with
  | nil => simp [alternativeProductions, countedAlternatives]
  | cons alternative rest ih =>
    obtain ⟨item, rules⟩ := p
    simp only [alternativeProductions, countedAlternatives, List.mem_append, ih, List.mem_map,
      Rule.helpers_flattenAll, List.mem_flatMap, List.mem_cons, exists_eq_or_imp,
      Production.mk.injEq]
    refine or_congr_left ?_
    rw [or_comm]
    refine or_congr_left ?_
    constructor
    · rintro ⟨variant, hvariant, rfl, rfl⟩
      exact ⟨rfl, hvariant⟩
    · rintro ⟨rfl, hvariant⟩
      exact ⟨rules, hvariant, rfl, rfl⟩

theorem Item.mem_productions_iff {item : Item} {p : Production} :
    p ∈ item.productions ↔
      (∃ choice ∈ item.counted, p.item = item.name ∧
        p.rules ∈ (Rule.flattenAll item.name choice.1 choice.2).variants) ∨
        ∃ group ∈ item.groups, p ∈ group.productions := by
  have hproductions : p ∈ item.productions ↔ ∃ choice ∈ item.counted,
      p.item = item.name ∧ p.rules ∈ (Rule.flattenAll item.name choice.1 choice.2).variants ∨
        ∃ group ∈ Rule.groupsAll item.name choice.1 choice.2, p ∈ group.productions := by
    unfold Item.productions Item.counted
    split
    · simp
    · exact mem_alternativeProductions_iff
  simp only [hproductions, Item.groups, List.mem_flatMap]
  constructor
  · rintro ⟨choice, hchoice, hvariant | ⟨group, hgroup, hp⟩⟩
    · exact .inl ⟨choice, hchoice, hvariant⟩
    · exact .inr ⟨group, ⟨choice, hchoice, hgroup⟩, hp⟩
  · rintro (⟨choice, hchoice, hvariant⟩ | ⟨group, ⟨choice, hchoice, hgroup⟩, hp⟩)
    · exact ⟨choice, hchoice, .inl hvariant⟩
    · exact ⟨choice, hchoice, .inr ⟨group, hgroup, hp⟩⟩

/-- The productions of a grammar are its alternatives with their brackets resolved and those of the
helpers of its groups. -/
theorem Grammar.mem_productions_iff {g : Grammar} {p : Production} : p ∈ g.productions ↔
    (∃ item ∈ g.items, ∃ choice ∈ item.counted, p.item = item.name ∧
      p.rules ∈ (Rule.flattenAll item.name choice.1 choice.2).variants) ∨
      ∃ group ∈ g.groups, p ∈ group.productions := by
  simp only [Grammar.productions, List.mem_eraseDups, List.mem_flatMap, Item.mem_productions_iff,
    Grammar.groups]
  constructor
  · rintro ⟨item, hitem, hvariant | ⟨group, hgroup, hp⟩⟩
    · exact .inl ⟨item, hitem, hvariant⟩
    · exact .inr ⟨group, ⟨item, hitem, hgroup⟩, hp⟩
  · rintro (⟨item, hitem, hvariant⟩ | ⟨group, ⟨item, hitem, hgroup⟩, hp⟩)
    · exact ⟨item, hitem, .inl hvariant⟩
    · exact ⟨item, hitem, .inr ⟨group, hgroup, hp⟩⟩

end BranchLR
