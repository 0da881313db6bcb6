import BranchLR.BuiltTable
import BranchLR.Proofs.Flattening.Meaning

/-!
# References to items

A table is refused when its flat productions refer to an item that is neither a token nor has
productions. Nested rules say the same without productions: a reference is live unless an empty
match cuts it off, or cuts off a bracket around it. Flattening keeps every live reference, in a
variant or in the body of a helper, and adds references to helpers alone. As every rule item and
every helper has productions, what is refused is a live reference to an item that does not exist.
-/

namespace BranchLR

open GrammarText (BracketKind)

section Library

variable [RegexLibrary]

/-- A sequence has a live reference to the item: neither the reference nor a bracket around it
stands behind an empty match in its own sequence. -/
inductive Rule.Mentions (name : String) : List Rule → Prop
  | reference {before after : List Rule} (hlive : .empty ∉ before) :
      Mentions name (before ++ .item name :: after)
  | bracket {before body after : List Rule} (kind : BracketKind) (hlive : .empty ∉ before)
      (hbody : Mentions name body) : Mentions name (before ++ kind.rule body :: after)

section

variable {name : String} {r : Rule} {rules rest : List Rule}

theorem Rule.mentions_iff : Mentions name rules ↔ ∃ before s after,
    rules = before ++ s :: after ∧ .empty ∉ before ∧
      (s = .item name ∨ ∃ kind : BracketKind, ∃ body, s = kind.rule body ∧ Mentions name body) := by
  constructor
  · intro h
    cases h with
    | reference hlive => exact ⟨_, _, _, rfl, hlive, .inl rfl⟩
    | bracket kind hlive hbody => exact ⟨_, _, _, rfl, hlive, .inr ⟨kind, _, rfl, hbody⟩⟩
  · rintro ⟨before, s, after, rfl, hlive, rfl | ⟨kind, body, rfl, hbody⟩⟩
    · exact .reference hlive
    · exact .bracket kind hlive hbody

theorem Rule.not_mentions_nil : ¬Mentions name [] := by
  rw [mentions_iff]
  rintro ⟨before, s, after, heq, -⟩
  simp at heq

/-- Nothing behind an empty match is live. -/
theorem Rule.not_mentions_empty : ¬Mentions name (.empty :: rest) := by
  rw [mentions_iff]
  rintro ⟨before, s, after, heq, hlive, hs⟩
  cases before with
  | nil =>
    obtain ⟨rfl, -⟩ := List.cons.inj heq
    rcases hs with hs | ⟨kind, body, hs, -⟩
    · cases hs
    · cases kind <;> cases hs
  | cons b before =>
    obtain ⟨rfl, -⟩ := List.cons.inj heq
    exact hlive List.mem_cons_self

/-- Elsewhere a reference is live if it is live in the first rule or in the rest. -/
theorem Rule.mentions_cons_iff (h : r ≠ .empty) :
    Mentions name (r :: rest) ↔ Mentions name [r] ∨ Mentions name rest := by
  rw [mentions_iff]
  constructor
  · rintro ⟨before, s, after, heq, hlive, hs⟩
    cases before with
    | nil =>
      obtain ⟨rfl, -⟩ := List.cons.inj heq
      exact .inl (mentions_iff.2 ⟨[], r, [], rfl, by simp, hs⟩)
    | cons b before =>
      obtain ⟨-, rfl⟩ := List.cons.inj heq
      exact .inr (mentions_iff.2
        ⟨before, s, after, rfl, fun hmem => hlive (List.mem_cons_of_mem b hmem), hs⟩)
  · rintro (hfirst | hrest)
    · obtain ⟨before, s, after, heq, hlive, hs⟩ := mentions_iff.1 hfirst
      cases before with
      | nil =>
        obtain ⟨rfl, -⟩ := List.cons.inj heq
        exact ⟨[], r, rest, rfl, hlive, hs⟩
      | cons b before => simp at heq
    · obtain ⟨before, s, after, rfl, hlive, hs⟩ := mentions_iff.1 hrest
      refine ⟨r :: before, s, after, rfl, ?_, hs⟩
      simpa [Ne.symm h] using hlive

/-- The live references of a single rule: what it refers to itself, or the live references of what
is in its brackets. -/
theorem Rule.mentions_singleton_iff : Mentions name [r] ↔
    r = .item name ∨ ∃ kind : BracketKind, ∃ body, r = kind.rule body ∧ Mentions name body := by
  rw [mentions_iff]
  constructor
  · rintro ⟨before, s, after, heq, -, hs⟩
    cases before with
    | nil =>
      obtain ⟨rfl, -⟩ := List.cons.inj heq
      exact hs
    | cons b before => simp at heq
  · intro hr
    exact ⟨[], r, [], rfl, by simp, hr⟩

theorem Rule.mentions_flat_iff (h : r.isFlat = true) : Mentions name [r] ↔ r = .item name := by
  rw [mentions_singleton_iff, or_iff_left]
  rintro ⟨kind, body, rfl, -⟩
  cases kind <;> cases h

theorem Rule.mentions_bracket_iff (kind : BracketKind) :
    Mentions name [kind.rule rules] ↔ Mentions name rules := by
  rw [mentions_singleton_iff]
  constructor
  · rintro (heq | ⟨kind', body, heq, hbody⟩)
    · cases kind <;> cases heq
    · have hrules : rules = body := by
        cases kind <;> cases kind' <;> cases heq <;> rfl
      rwa [hrules]
  · intro h
    exact .inr ⟨kind, rules, rfl, h⟩

end

/-! ### Flattening keeps live references -/

/-- One of the sequences refers to the item. -/
def Refers (name : String) (variants : List (List Rule)) : Prop :=
  ∃ variant ∈ variants, .item name ∈ variant

/-- The item is referred to by a variant, or by a body of one of the groups. -/
def Flattening.Uses (f : Flattening) (groups : List Group) (name : String) : Prop :=
  Refers name f.variants ∨ ∃ group ∈ groups, Refers name group.bodies

section

variable {owner name : String} {count : Nat} {groups groups' : List Group}

theorem joinVariants_ne_nil {heads tails : List (List Rule)} (hheads : heads ≠ [])
    (htails : tails ≠ []) : joinVariants heads tails ≠ [] := by
  obtain ⟨head, hhead⟩ := List.exists_mem_of_ne_nil heads hheads
  obtain ⟨tail, htail⟩ := List.exists_mem_of_ne_nil tails htails
  exact List.ne_nil_of_mem (mem_joinVariants.2 ⟨head, hhead, tail, htail, rfl⟩)

mutual

/-- Every rule stands for some flat sequence. -/
theorem Rule.variants_flatten_ne_nil (owner : String) (count : Nat) :
    ∀ r : Rule, (r.flatten owner count).variants ≠ []
  | .optional body => by simp [Rule.flatten]
  | .repeated body => by
    rw [Rule.flatten, Flattening.repeatedBy]
    split <;> simp
  | .item _ | .literal _ | .pattern _ | .empty | .endOfInput => by simp [Rule.flatten]

/-- Every sequence stands for some flat sequence. -/
theorem Rule.variants_flattenAll_ne_nil (owner : String) (count : Nat) :
    ∀ rules : List Rule, (Rule.flattenAll owner count rules).variants ≠ []
  | [] => by simp [Rule.flattenAll]
  | r :: rest => by
    by_cases hempty : r = .empty
    · subst hempty
      simp [Rule.flattenAll]
    · rw [Rule.flattenAll_cons hempty]
      exact joinVariants_ne_nil (Rule.variants_flatten_ne_nil owner count r)
        (Rule.variants_flattenAll_ne_nil owner _ rest)

end

/-- Joining variants keeps what either side refers to. -/
theorem refers_joinVariants_iff {heads tails : List (List Rule)} (hheads : heads ≠ [])
    (htails : tails ≠ []) :
    Refers name (joinVariants heads tails) ↔ Refers name heads ∨ Refers name tails := by
  constructor
  · rintro ⟨variant, hvariant, hname⟩
    obtain ⟨head, hhead, tail, htail, rfl⟩ := mem_joinVariants.1 hvariant
    rcases List.mem_append.1 hname with hname | hname
    · exact .inl ⟨head, hhead, hname⟩
    · exact .inr ⟨tail, htail, hname⟩
  · rintro (⟨head, hhead, hname⟩ | ⟨tail, htail, hname⟩)
    · obtain ⟨tail, htail⟩ := List.exists_mem_of_ne_nil tails htails
      exact ⟨_, mem_joinVariants.2 ⟨head, hhead, tail, htail, rfl⟩, List.mem_append_left _ hname⟩
    · obtain ⟨head, hhead⟩ := List.exists_mem_of_ne_nil heads hheads
      exact ⟨_, mem_joinVariants.2 ⟨head, hhead, tail, htail, rfl⟩, List.mem_append_right _ hname⟩

/-- A sequence that refers to an item is not empty. -/
theorem refers_filter_iff {variants : List (List Rule)} :
    Refers name (variants.filter fun body => !body.isEmpty) ↔ Refers name variants := by
  constructor
  · rintro ⟨body, hbody, hname⟩
    exact ⟨body, (List.mem_filter.1 hbody).1, hname⟩
  · rintro ⟨variant, hvariant, hname⟩
    have hne : variant ≠ [] := List.ne_nil_of_mem hname
    exact ⟨variant, List.mem_filter.2 ⟨hvariant, by simpa using hne⟩, hname⟩

/-- A repeated bracket moves what its contents refer to into the bodies of its helper, and refers to
the helper. -/
theorem Flattening.uses_repeatedBy_iff (f : Flattening) (contents : List Rule) :
    (f.repeatedBy owner).Uses (groups ++ f.group owner contents) name ↔
      f.Uses groups name ∨ name ∈ (f.group owner contents).map Group.name := by
  have hfilter : Refers name (f.variants.filter fun body => !body.isEmpty) ↔
      Refers name f.variants := refers_filter_iff
  unfold Flattening.Uses
  rw [← hfilter]
  unfold Flattening.repeatedBy Flattening.group
  cases f.variants.filter fun body => !body.isEmpty with
  | nil => simp [Refers]
  | cons body bodies =>
    have hvariants : Refers name [[], [.item (helperName owner (f.count + 1))]] ↔
        name = helperName owner (f.count + 1) := by
      simp [Refers]
    simp only [hvariants, List.mem_append, List.mem_singleton, or_and_right, exists_or,
      exists_eq_left, List.map_cons, List.map_nil]
    rw [or_comm, or_comm (a := Refers name (body :: bodies))]

mutual

/-- What a rule comes to refers to the live references of the rule and to its helpers. -/
theorem Rule.uses_flatten_iff (owner name : String) (count : Nat) : ∀ r : Rule, r ≠ .empty →
    ((r.flatten owner count).Uses (r.groups owner count) name ↔
      Mentions name [r] ∨ name ∈ (r.groups owner count).map Group.name)
  | .optional body, _ => by
    have hbracket : Mentions name [.optional body] ↔ Mentions name body :=
      mentions_bracket_iff .optional
    rw [hbracket, Rule.groups, ← Rule.uses_flattenAll_iff owner name count body, Rule.flatten]
    simp [Flattening.Uses, Refers]
  | .repeated body, _ => by
    have hbracket : Mentions name [.repeated body] ↔ Mentions name body :=
      mentions_bracket_iff .repeated
    rw [hbracket, Rule.groups, Rule.flatten, Flattening.uses_repeatedBy_iff,
      Rule.uses_flattenAll_iff owner name count body, List.map_append, List.mem_append, or_assoc]
  | .item _, _ | .literal _, _ | .pattern _, _ | .endOfInput, _ => by
    rw [Rule.flatten_of_isFlat rfl, Rule.groups_of_isFlat rfl, mentions_flat_iff rfl]
    simp [Flattening.Uses, Refers, eq_comm]

/-- What a sequence comes to refers to the live references of the sequence and to its helpers. -/
theorem Rule.uses_flattenAll_iff (owner name : String) (count : Nat) : ∀ rules : List Rule,
    (Rule.flattenAll owner count rules).Uses (Rule.groupsAll owner count rules) name ↔
      Mentions name rules ∨ name ∈ (Rule.groupsAll owner count rules).map Group.name
  | [] => by simp [Rule.flattenAll, Rule.groupsAll, Flattening.Uses, Refers, not_mentions_nil]
  | r :: rest => by
    by_cases hempty : r = .empty
    · subst hempty
      simp [Rule.flattenAll, Rule.groupsAll, Flattening.Uses, Refers, not_mentions_empty]
    · have hhead := Rule.uses_flatten_iff owner name count r hempty
      have htail := Rule.uses_flattenAll_iff owner name (r.flatten owner count).count rest
      have hjoin : Refers name (joinVariants _ _) ↔ _ :=
        refers_joinVariants_iff (Rule.variants_flatten_ne_nil owner count r)
          (Rule.variants_flattenAll_ne_nil owner (r.flatten owner count).count rest)
      unfold Flattening.Uses at hhead htail ⊢
      rw [mentions_cons_iff hempty, Rule.groupsAll_cons hempty, Rule.flattenAll_cons hempty, hjoin,
        List.map_append, List.mem_append]
      simp only [List.mem_append, or_and_right, exists_or]
      rw [or_or_or_comm, hhead, htail, or_or_or_comm]

end

end

/-! ### The productions of a grammar -/

section

variable {owner : String} {count : Nat} {P : Group → Prop}

mutual

/-- What holds of the group of every repeated bracket holds of the groups of a rule. -/
theorem Rule.groups_induction
    (h : ∀ (f : Flattening) (contents : List Rule), ∀ group ∈ f.group owner contents, P group) :
    ∀ (r : Rule) (count : Nat), ∀ group ∈ r.groups owner count, P group
  | .optional body, count => Rule.groupsAll_induction h body count
  | .repeated body, count => by
    intro group hgroup
    rcases List.mem_append.1 hgroup with hgroup | hgroup
    · exact Rule.groupsAll_induction h body count group hgroup
    · exact h _ body group hgroup
  | .item _, _ | .literal _, _ | .pattern _, _ | .empty, _ | .endOfInput, _ => nofun

theorem Rule.groupsAll_induction
    (h : ∀ (f : Flattening) (contents : List Rule), ∀ group ∈ f.group owner contents, P group) :
    ∀ (rules : List Rule) (count : Nat), ∀ group ∈ Rule.groupsAll owner count rules, P group
  | [], _ => nofun
  | r :: rest, count => by
    by_cases hempty : r = .empty
    · subst hempty
      exact nofun
    · rw [Rule.groupsAll_cons hempty]
      intro group hgroup
      rcases List.mem_append.1 hgroup with hgroup | hgroup
      · exact Rule.groups_induction h r count group hgroup
      · exact Rule.groupsAll_induction h rest _ group hgroup

end

end

/-- Every helper has something to repeat. -/
theorem Grammar.bodies_ne_nil {g : Grammar} {group : Group} (h : group ∈ g.groups) :
    group.bodies ≠ [] := by
  obtain ⟨item, -, hgroup⟩ := List.mem_flatMap.1 h
  obtain ⟨choice, -, hgroup⟩ := List.mem_flatMap.1 hgroup
  refine Rule.groupsAll_induction (P := fun group => group.bodies ≠ []) ?_ choice.2 choice.1 group
    hgroup
  intro f contents group hgroup
  unfold Flattening.group at hgroup
  split at hgroup
  · cases hgroup
  next hne =>
    obtain rfl := List.mem_singleton.1 hgroup
    exact hne

section

variable {item : Item} {name : String} {p : Production}

/-- A production of an item belongs to the item itself or to one of its helpers. -/
theorem Item.item_of_mem_productions (h : p ∈ item.productions) :
    p.item = item.name ∨ ∃ group ∈ item.groups, p.item = group.name := by
  rcases Item.mem_productions_iff.1 h with ⟨_, _, hname, _⟩ | ⟨group, hgroup, hp⟩
  · exact .inl hname
  · exact .inr ⟨group, hgroup, (mem_helperProductions.1 hp).1⟩

/-- The productions of an item refer to what is live in its alternatives, and to its helpers. -/
theorem Item.mentions_of_mem_rules (h : p ∈ item.productions) (hname : .item name ∈ p.rules) :
    (∃ alternative ∈ item.alternatives, Rule.Mentions name alternative) ∨
      ∃ group ∈ item.groups, group.name = name := by
  have huses : (∃ choice ∈ item.counted,
      (Rule.flattenAll item.name choice.1 choice.2).Uses
        (Rule.groupsAll item.name choice.1 choice.2) name) →
      (∃ alternative ∈ item.alternatives, Rule.Mentions name alternative) ∨
        ∃ group ∈ item.groups, group.name = name := by
    rintro ⟨choice, hchoice, huses⟩
    rcases (Rule.uses_flattenAll_iff _ _ _ _).1 huses with hmentions | hhelper
    · obtain ⟨-, halternative⟩ := Item.exists_mem_counted_iff.1 ⟨choice.1, hchoice⟩
      exact .inl ⟨choice.2, halternative, hmentions⟩
    · obtain ⟨group, hgroup, heq⟩ := List.mem_map.1 hhelper
      exact .inr ⟨group, List.mem_flatMap.2 ⟨choice, hchoice, hgroup⟩, heq⟩
  rcases Item.mem_productions_iff.1 h with ⟨choice, hchoice, -, hvariant⟩ | ⟨group, hgroup, hp⟩
  · exact huses ⟨choice, hchoice, .inl ⟨p.rules, hvariant, hname⟩⟩
  · obtain ⟨choice, hchoice, hmem⟩ := List.mem_flatMap.1 hgroup
    obtain ⟨-, hbody | ⟨body, hbody, hrules⟩⟩ := mem_helperProductions.1 hp
    · exact huses ⟨choice, hchoice, .inr ⟨group, hmem, p.rules, hbody, hname⟩⟩
    · rw [hrules] at hname
      rcases List.mem_cons.1 hname with heq | hname
      · exact .inr ⟨group, hgroup, (Rule.item.inj heq).symm⟩
      · exact huses ⟨choice, hchoice, .inr ⟨group, hmem, body, hbody, hname⟩⟩

/-- A live reference is a reference. -/
theorem Rule.Mentions.mem_referencesAll {rules : List Rule} (h : Rule.Mentions name rules) :
    name ∈ Rule.referencesAll rules := by
  induction h with
  | reference _ =>
    rw [GrammarText.referencesAll_append]
    exact List.mem_append_right _ List.mem_cons_self
  | bracket kind _ _ ih =>
    rw [GrammarText.referencesAll_append]
    refine List.mem_append_right _ (List.mem_append_left _ ?_)
    cases kind <;> exact ih

/-- A rule item of the grammar has a live reference to the name. -/
def Grammar.RefersTo (g : Grammar) (owner : Item) (name : String) : Prop :=
  owner ∈ g.items ∧ owner.isToken = false ∧
    ∃ alternative ∈ owner.alternatives, Rule.Mentions name alternative

/-- What is live in a rule item is referred to by one of its productions. -/
theorem Grammar.RefersTo.exists_production {g : Grammar} (h : g.RefersTo item name) :
    ∃ p ∈ g.productions, .item name ∈ p.rules := by
  obtain ⟨hitem, hrule, alternative, halternative, hmentions⟩ := h
  obtain ⟨n, hn⟩ := Item.exists_mem_counted_iff.2 ⟨hrule, halternative⟩
  rcases (Rule.uses_flattenAll_iff item.name name n alternative).2 (.inl hmentions) with
    ⟨variant, hvariant, hname⟩ | ⟨group, hgroup, body, hbody, hname⟩
  · exact ⟨⟨item.name, variant⟩,
      Grammar.mem_productions_iff.2 (.inl ⟨item, hitem, _, hn, rfl, hvariant⟩), hname⟩
  · have hmem : group ∈ g.groups :=
      List.mem_flatMap.2 ⟨item, hitem, List.mem_flatMap.2 ⟨_, hn, hgroup⟩⟩
    refine ⟨⟨group.name, body⟩, Grammar.mem_productions_iff.2 (.inr ⟨group, hmem, ?_⟩), hname⟩
    exact mem_helperProductions.2 ⟨rfl, .inl hbody⟩

/-- A rule item of a grammar has a production of its own. -/
theorem Grammar.exists_production {g : Grammar} (hitem : item ∈ g.items)
    (hrule : item.isToken = false) : ∃ p ∈ g.productions, p.item = item.name := by
  have himported : item.isImported = false := by
    cases hkind : item.kind <;> simp_all [Item.isToken, Item.isImported]
  have hne : item.alternatives ≠ [] := by
    intro hempty
    simp [(g.wellFormed item hitem).imported_iff.2 hempty] at himported
  obtain ⟨alternative, halternative⟩ := List.exists_mem_of_ne_nil _ hne
  obtain ⟨n, hn⟩ := Item.exists_mem_counted_iff.2 ⟨hrule, halternative⟩
  obtain ⟨variant, hvariant⟩ :=
    List.exists_mem_of_ne_nil _ (Rule.variants_flattenAll_ne_nil item.name n alternative)
  exact ⟨⟨item.name, variant⟩,
    Grammar.mem_productions_iff.2 (.inl ⟨item, hitem, _, hn, rfl, hvariant⟩), rfl⟩

end

/-! ### Undefined items -/

namespace BuiltTable

variable {g : Grammar} {name : String} {p : Production} {item : Item}

/-- What can be referred to are the items of a grammar and their helpers. -/
theorem isDefined_iff : isDefined g g.productions name = true ↔
    name ∈ g.names ∨ ∃ group ∈ g.groups, group.name = name := by
  simp only [isDefined, Bool.or_eq_true, List.any_eq_true, beq_iff_eq]
  constructor
  · rintro (htoken | ⟨p, hp, rfl⟩)
    · obtain ⟨item, hitem⟩ := Option.isSome_iff_exists.1 htoken
      obtain ⟨hfind, -⟩ := Option.filter_eq_some_iff.1 hitem
      obtain rfl : item.name = name := by simpa using List.find?_some hfind
      exact .inl (List.mem_map_of_mem (List.mem_of_find?_eq_some hfind))
    · rcases Grammar.mem_productions_iff.1 hp with ⟨item, hitem, -, -, hname, -⟩ |
        ⟨group, hgroup, hp⟩
      · exact .inl (hname ▸ List.mem_map_of_mem hitem)
      · exact .inr ⟨group, hgroup, (mem_helperProductions.1 hp).1.symm⟩
  · rintro (hmem | ⟨group, hgroup, rfl⟩)
    · obtain ⟨item, hitem, rfl⟩ := List.mem_map.1 hmem
      cases hrule : item.isToken with
      | true =>
        left
        simp [Grammar.tokenItem?, Grammar.find?_of_mem hitem, hrule]
      | false => exact .inr (Grammar.exists_production hitem hrule)
    · obtain ⟨body, hbody⟩ := List.exists_mem_of_ne_nil _ (Grammar.bodies_ne_nil hgroup)
      have hp : ⟨group.name, body⟩ ∈ group.productions := mem_helperProductions.2 ⟨rfl, .inl hbody⟩
      exact .inr ⟨_, Grammar.mem_productions_iff.2 (.inr ⟨group, hgroup, hp⟩), rfl⟩

theorem undefinedIn_eq_none_iff {productions : List Production} :
    undefinedIn g productions p = none ↔
      ∀ name, .item name ∈ p.rules → isDefined g productions name = true := by
  simp only [undefinedIn, List.findSome?_eq_none_iff]
  constructor
  · intro h name hname
    by_contra hdefined
    have hnone := h _ hname
    simp [hdefined] at hnone
  · intro h rule hrule
    split
    next name =>
      rw [if_pos (h name hrule)]
    next => rfl

theorem exists_of_undefinedIn {productions : List Production} {e : TableError}
    (h : undefinedIn g productions p = some e) :
    ∃ name, .item name ∈ p.rules ∧ isDefined g productions name = false ∧
      e = .undefinedItem name p.item := by
  obtain ⟨rule, hrule, heq⟩ := List.exists_of_findSome?_eq_some h
  split at heq
  next name =>
    split at heq
    · cases heq
    next hdefined => exact ⟨name, hrule, by simpa using hdefined, (Option.some.inj heq).symm⟩
  next => cases heq

/-- A rule item can always be started from, so only the productions of the grammar can refer to an
item that is not defined, and the first of them that does is reported. -/
theorem withStart_eq_error_iff (hitem : item ∈ g.items) (hrule : item.isToken = false)
    {e : TableError} : withStart g item.name = .error e ↔
      g.productions.findSome? (undefinedIn g g.productions) = some e := by
  have hstart : undefinedIn g g.productions ⟨"", [.item item.name]⟩ = none := by
    refine undefinedIn_eq_none_iff.2 fun name hname => isDefined_iff.2 (.inl ?_)
    obtain rfl := Rule.item.inj (List.mem_singleton.1 hname)
    exact List.mem_map_of_mem hitem
  simp only [withStart, Grammar.find?_of_mem hitem, hrule, Bool.false_eq_true, if_false, numbered,
    List.findSome?_cons, hstart]
  cases g.productions.findSome? (undefinedIn g g.productions) with
  | none => simp
  | some e' => simp

/-- A table is built exactly when every item that a production refers to is defined. -/
theorem exists_built_iff (hitem : item ∈ g.items) (hrule : item.isToken = false) :
    (∃ built, withStart g item.name = .ok built) ↔ ∀ p ∈ g.productions, ∀ name,
      .item name ∈ p.rules → isDefined g g.productions name = true := by
  simp only [← undefinedIn_eq_none_iff, ← List.findSome?_eq_none_iff]
  cases hresult : withStart g item.name with
  | ok built =>
    refine iff_of_true ⟨built, rfl⟩ ?_
    by_contra hsome
    obtain ⟨e, he⟩ := Option.ne_none_iff_exists'.1 hsome
    cases hresult.symm.trans ((withStart_eq_error_iff hitem hrule).2 he)
  | error e =>
    have hsome := (withStart_eq_error_iff hitem hrule).1 hresult
    simp [hsome]

/-- An error names a reference that is not defined, and the item of its production. -/
theorem exists_of_withStart_error (hitem : item ∈ g.items) (hrule : item.isToken = false)
    {e : TableError} (h : withStart g item.name = .error e) :
    ∃ p ∈ g.productions, ∃ name, .item name ∈ p.rules ∧
      isDefined g g.productions name = false ∧ e = .undefinedItem name p.item := by
  obtain ⟨p, hp, hsome⟩ :=
    List.exists_of_findSome?_eq_some ((withStart_eq_error_iff hitem hrule).1 h)
  exact ⟨p, hp, exists_of_undefinedIn hsome⟩

/-- In a grammar whose names are free of the mark of helpers, a live reference is defined exactly
when it names an item. -/
theorem isDefined_of_refersTo_iff (h : g.Unmarked) (hrefers : g.RefersTo item name) :
    isDefined g g.productions name = true ↔ name ∈ g.names := by
  obtain ⟨hitem, -, alternative, halternative, hmentions⟩ := hrefers
  have hunmarked : '#' ∉ name.toList :=
    h.references item hitem alternative halternative name hmentions.mem_referencesAll
  rw [isDefined_iff, or_iff_left]
  rintro ⟨group, hgroup, rfl⟩
  exact hunmarked (Grammar.mark_mem_of_group hgroup)

/-- A reference of a production that is not defined is live in the rule item that the production
belongs to. -/
theorem exists_refersTo (hp : p ∈ g.productions) (hname : .item name ∈ p.rules)
    (hundefined : isDefined g g.productions name = false) :
    ∃ owner, g.RefersTo owner name ∧
      (p.item = owner.name ∨ ∃ group ∈ owner.groups, p.item = group.name) := by
  obtain ⟨owner, howner, hp⟩ := List.mem_flatMap.1 (List.mem_eraseDups.1 hp)
  have hrule : owner.isToken = false := by
    by_contra htoken
    simp [Item.productions, htoken] at hp
  rcases Item.mentions_of_mem_rules hp hname with hmentions | ⟨group, hgroup, heq⟩
  · exact ⟨owner, ⟨howner, hrule, hmentions⟩, Item.item_of_mem_productions hp⟩
  · have hmem : group ∈ g.groups := List.mem_flatMap.2 ⟨owner, howner, hgroup⟩
    have hdefined := isDefined_iff.2 (.inr ⟨group, hmem, heq⟩)
    rw [hundefined] at hdefined
    cases hdefined

/-- **Undefined references are reported exactly.** From a rule item of a grammar whose names are
free of the mark of helpers a table is built if and only if every live reference in its rule items
names an item. Otherwise the error names a live reference that names no item, and the rule item that
has this reference or one of the helpers of that item. -/
theorem undefined_references_reported {start : Item} (h : g.Unmarked) (hstart : start ∈ g.items)
    (hrule : start.isToken = false) :
    ((∃ built, withStart g start.name = .ok built) ↔
      ∀ owner name, g.RefersTo owner name → name ∈ g.names) ∧
    ∀ e, withStart g start.name = .error e → ∃ owner name referencedBy,
      e = .undefinedItem name referencedBy ∧ g.RefersTo owner name ∧ name ∉ g.names ∧
        (referencedBy = owner.name ∨ ∃ group ∈ owner.groups, ∃ k,
          referencedBy = group.name ∧ group.name = helperName owner.name k) := by
  have hundefined : ∀ p ∈ g.productions, ∀ name, .item name ∈ p.rules →
      isDefined g g.productions name = false → ∃ owner, g.RefersTo owner name ∧ name ∉ g.names ∧
        (p.item = owner.name ∨ ∃ group ∈ owner.groups, p.item = group.name) := by
    intro p hp name hname hfalse
    obtain ⟨owner, hrefers, howner⟩ := exists_refersTo hp hname hfalse
    refine ⟨owner, hrefers, fun hmem => ?_, howner⟩
    simp [(isDefined_of_refersTo_iff h hrefers).2 hmem] at hfalse
  refine ⟨(exists_built_iff hstart hrule).trans ⟨fun hdefined owner name hrefers => ?_,
    fun hnames p hp name hname => ?_⟩, fun e he => ?_⟩
  · obtain ⟨p, hp, hname⟩ := hrefers.exists_production
    exact (isDefined_of_refersTo_iff h hrefers).1 (hdefined p hp name hname)
  · by_contra hfalse
    obtain ⟨owner, hrefers, hmissing, -⟩ := hundefined p hp name hname (by simpa using hfalse)
    exact hmissing (hnames owner name hrefers)
  · obtain ⟨p, hp, name, hname, hfalse, rfl⟩ := exists_of_withStart_error hstart hrule he
    obtain ⟨owner, hrefers, hmissing, howner⟩ := hundefined p hp name hname hfalse
    refine ⟨owner, name, p.item, rfl, hrefers, hmissing, howner.imp_right ?_⟩
    rintro ⟨group, hgroup, heq⟩
    obtain ⟨k, hk⟩ := Item.exists_helperName hgroup
    exact ⟨group, hgroup, k, heq, hk⟩

end BuiltTable

end Library

namespace BuiltTable

/-- A list whose elements are not defined; the empty match cuts off another name that is not. -/
def dangling : Grammar where
  items := [⟨"S", .rule,
    [[.literal "a", .repeated [.optional [.item "B"], .literal ",", .empty, .item "C"]]]⟩]
  start := some "S"
  nodup_names := by decide
  wellFormed := by
    intro item h
    obtain rfl := List.mem_singleton.1 h
    exact ⟨by decide, by decide⟩
  start_mem := by decide

/-- The element is reported for the helper of the list. -/
theorem withStart_dangling : withStart dangling "S" = .error (.undefinedItem "B" "S#1") := by cbv

/-- The name that is reported is live, and not every live reference of the grammar names an item. -/
theorem undefined_references_reported_dangling :
    dangling.Unmarked ∧ withStart dangling "S" = .error (.undefinedItem "B" "S#1") ∧
      (¬∀ owner name, dangling.RefersTo owner name → name ∈ dangling.names) ∧
      ∃ owner, dangling.RefersTo owner "B" := by
  have hunmarked : dangling.Unmarked := ⟨by decide, by decide⟩
  have hstart : ⟨"S", .rule, [[.literal "a",
      .repeated [.optional [.item "B"], .literal ",", .empty, .item "C"]]]⟩ ∈ dangling.items :=
    List.mem_cons_self
  obtain ⟨hiff, herror⟩ := undefined_references_reported hunmarked hstart rfl
  refine ⟨hunmarked, withStart_dangling, fun hnames => ?_, ?_⟩
  · obtain ⟨built, hbuilt⟩ := hiff.2 hnames
    cases withStart_dangling.symm.trans hbuilt
  · obtain ⟨owner, name, referencedBy, heq, hrefers, -⟩ := herror _ withStart_dangling
    cases heq
    exact ⟨owner, hrefers⟩

end BuiltTable

end BranchLR
