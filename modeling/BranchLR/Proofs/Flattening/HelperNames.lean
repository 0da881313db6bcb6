import Mathlib.Data.List.Nodup
import BranchLR.Proofs.Flattening.Groups

/-!
# Names of helpers

The number of a group goes into the name of its helper behind a mark. Names that come from a grammar
do not contain the mark, so no two helpers share a name and none has the name of an item.
-/

namespace BranchLR

theorem toList_helperName (owner : String) (k : Nat) :
    (helperName owner k).toList = owner.toList ++ '#' :: Nat.toDigits 10 k := by
  simp [helperName]

theorem mark_mem_helperName (owner : String) (k : Nat) : '#' ∈ (helperName owner k).toList := by
  simp [toList_helperName]

/-- The name of a helper can be taken apart at the mark. -/
theorem helperName_inj {owner owner' : String} {k k' : Nat} (howner : '#' ∉ owner.toList)
    (h : helperName owner k = helperName owner' k') : owner = owner' ∧ k = k' := by
  have hdigits : '#' ∉ Nat.toDigits 10 k := fun hmem => by
    have hdigit := Nat.isDigit_of_mem_toDigits (by decide) (by decide) hmem
    simp at hdigit
  have hlist := congrArg String.toList h
  rw [toList_helperName, toList_helperName] at hlist
  obtain ⟨hleft, -, hright⟩ := (List.append_cons_inj_of_notMem howner hdigits).1 hlist
  refine ⟨String.toList_inj.1 hleft, ?_⟩
  simpa only [Nat.ofDigitChars_ten_toDigits] using congrArg (Nat.ofDigitChars 10 · 0) hright

variable [RegexLibrary]

mutual

/-- The names of the items that a rule refers to. -/
def Rule.references : Rule → List String
  | .item name => [name]
  | .optional body => Rule.referencesAll body
  | .repeated body => Rule.referencesAll body
  | _ => []

/-- The names of the items that a sequence of rules refers to. -/
def Rule.referencesAll : List Rule → List String
  | [] => []
  | r :: rest => r.references ++ Rule.referencesAll rest

end

/-- A grammar without the mark of helpers in the names of its items and in its references. -/
structure Grammar.Unmarked (g : Grammar) : Prop where
  names : ∀ name ∈ g.names, '#' ∉ name.toList
  references : ∀ item ∈ g.items, ∀ alternative ∈ item.alternatives,
    ∀ name ∈ Rule.referencesAll alternative, '#' ∉ name.toList

/-- The groups are those of an owner with the numbers from the first count to the second. -/
def Consecutive (owner : String) (groups : List Group) (count count' : Nat) : Prop :=
  ∃ n, count' = count + n ∧
    groups.map Group.name = (List.range' (count + 1) n).map (helperName owner)

section

variable {owner : String} {groups groups' : List Group} {count count' count'' : Nat}

theorem consecutive_nil (owner : String) (count : Nat) : Consecutive owner [] count count :=
  ⟨0, rfl, rfl⟩

theorem Consecutive.append (h : Consecutive owner groups count count')
    (h' : Consecutive owner groups' count' count'') :
    Consecutive owner (groups ++ groups') count count'' := by
  obtain ⟨m, rfl, hm⟩ := h
  obtain ⟨n, rfl, hn⟩ := h'
  refine ⟨m + n, by omega, ?_⟩
  rw [List.map_append, hm, hn, ← List.map_append, Nat.add_right_comm, List.range'_append_1]

/-- A repeated bracket is numbered behind the groups in it. -/
theorem Flattening.consecutive_group (owner : String) (f : Flattening) (contents : List Rule) :
    Consecutive owner (f.group owner contents) f.count (f.repeatedBy owner).count := by
  unfold Flattening.repeatedBy Flattening.group
  cases f.variants.filter fun body => !body.isEmpty with
  | nil => exact consecutive_nil owner f.count
  | cons body bodies => exact ⟨1, rfl, rfl⟩

mutual

theorem Rule.consecutive_groups (owner : String) (count : Nat) : ∀ r : Rule, r ≠ .empty →
    Consecutive owner (r.groups owner count) count (r.flatten owner count).count
  | .optional body, _ => Rule.consecutive_groupsAll owner count body
  | .repeated body, _ =>
    (Rule.consecutive_groupsAll owner count body).append
      (Flattening.consecutive_group owner _ body)
  | .item _, _ | .literal _, _ | .pattern _, _ | .endOfInput, _ => consecutive_nil owner count

/-- The groups of a sequence have consecutive numbers. -/
theorem Rule.consecutive_groupsAll (owner : String) (count : Nat) : ∀ rules : List Rule,
    Consecutive owner (Rule.groupsAll owner count rules) count
      (Rule.flattenAll owner count rules).count
  | [] => consecutive_nil owner count
  | r :: rest => by
    by_cases hempty : r = .empty
    · subst hempty
      exact consecutive_nil owner count
    · rw [Rule.flattenAll_cons hempty, Rule.groupsAll_cons hempty]
      exact (Rule.consecutive_groups owner count r hempty).append
        (Rule.consecutive_groupsAll owner _ rest)

end

/-- The groups of the alternatives of an owner have consecutive numbers. -/
theorem consecutive_countedAlternatives (owner : String) (count : Nat)
    (alternatives : List (List Rule)) :
    ∃ count', Consecutive owner ((countedAlternatives owner count alternatives).flatMap
      fun (n, alternative) => Rule.groupsAll owner n alternative) count count' := by
  induction alternatives generalizing count with
  | nil => exact ⟨count, consecutive_nil owner count⟩
  | cons alternative rest ih =>
    obtain ⟨count', hrest⟩ := ih (Rule.flattenAll owner count alternative).count
    exact ⟨count', (Rule.consecutive_groupsAll owner count alternative).append hrest⟩

end

/-- The groups of an item are numbered from one on. -/
theorem Item.consecutive_groups (item : Item) :
    ∃ count, Consecutive item.name item.groups 0 count := by
  unfold Item.groups Item.counted
  split
  · exact ⟨0, consecutive_nil item.name 0⟩
  · exact consecutive_countedAlternatives item.name 0 item.alternatives

/-- The helper of a group has a name made from that of its owner. -/
theorem Item.exists_helperName {item : Item} {group : Group} (h : group ∈ item.groups) :
    ∃ k, group.name = helperName item.name k := by
  obtain ⟨count, n, -, hnames⟩ := item.consecutive_groups
  have hmem : group.name ∈ item.groups.map Group.name := List.mem_map_of_mem h
  rw [hnames] at hmem
  obtain ⟨k, -, hk⟩ := List.mem_map.1 hmem
  exact ⟨k, hk.symm⟩

/-- No two groups of a grammar share a helper. -/
theorem Grammar.Unmarked.nodup_names {g : Grammar} (h : g.Unmarked) :
    (g.groups.map Group.name).Nodup := by
  rw [Grammar.groups, List.map_flatMap, List.nodup_flatMap]
  constructor
  · intro item hitem
    obtain ⟨count, n, -, hnames⟩ := item.consecutive_groups
    rw [hnames]
    have hname := h.names _ (List.mem_map_of_mem hitem)
    exact List.Nodup.map (fun k k' heq => (helperName_inj hname heq).2) List.nodup_range'
  · have hpairwise : g.items.Pairwise fun a b => a.name ≠ b.name :=
      List.pairwise_map.1 g.nodup_names
    refine hpairwise.imp_of_mem fun {a b} ha _ hne => ?_
    intro name hname hname'
    obtain ⟨group, hgroup, rfl⟩ := List.mem_map.1 hname
    obtain ⟨group', hgroup', heq⟩ := List.mem_map.1 hname'
    obtain ⟨k, hk⟩ := Item.exists_helperName hgroup
    obtain ⟨k', hk'⟩ := Item.exists_helperName hgroup'
    have hhelper : helperName a.name k = helperName b.name k' := by rw [← hk, ← hk', heq]
    exact hne (helperName_inj (h.names _ (List.mem_map_of_mem ha)) hhelper).1

/-- The name of a helper has the mark. -/
theorem Grammar.mark_mem_of_group {g : Grammar} {group : Group} (h : group ∈ g.groups) :
    '#' ∈ group.name.toList := by
  obtain ⟨item, -, hgroup⟩ := List.mem_flatMap.1 h
  obtain ⟨k, hk⟩ := Item.exists_helperName hgroup
  rw [hk]
  exact mark_mem_helperName item.name k

/-- No helper has the name of an item. -/
theorem Grammar.Unmarked.name_notMem {g : Grammar} (h : g.Unmarked) {group : Group}
    (hgroup : group ∈ g.groups) : group.name ∉ g.names := fun hmem =>
  h.names _ hmem (Grammar.mark_mem_of_group hgroup)

end BranchLR
