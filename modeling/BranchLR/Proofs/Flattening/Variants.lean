import BranchLR.Proofs.Flattening.HelperNames
import BranchLR.Proofs.Flattening.Language

/-!
# What variants stand for

Resolving brackets neither loses words nor adds any. If the language of every helper is closed under
its productions, then the variants of a sequence stand for all words of the sequence, and if every
helper stands for repetitions of its group alone, they stand for nothing else.
-/

namespace BranchLR

open scoped Computability

variable [RegexLibrary]

/-! ### Nothing is lost -/

section

variable {ρ : String → Language Terminal}

/-- The language of a helper keeps to the productions of its group. -/
def Group.Closed (ρ : String → Language Terminal) (group : Group) : Prop :=
  ∀ p ∈ group.productions, Rule.languageAll ρ p.rules ≤ ρ p.item

/-- A closed helper can go on with any of its bodies. -/
theorem Group.Closed.mul_le {group : Group} (h : group.Closed ρ) :
    (1 + ρ group.name) * (1 + Rule.languageAny ρ group.bodies) ≤ 1 + ρ group.name := by
  have hbodies : Rule.languageAny ρ group.bodies ≤ ρ group.name := by
    refine Rule.languageAny_le_iff.2 fun body hbody => ?_
    exact h ⟨group.name, body⟩ (mem_helperProductions.2 ⟨rfl, .inl hbody⟩)
  have hmore : ρ group.name * Rule.languageAny ρ group.bodies ≤ ρ group.name := by
    intro w hw
    obtain ⟨u, hu, v, hv, rfl⟩ := Language.mem_mul.1 hw
    obtain ⟨body, hbody, hv⟩ := Rule.mem_languageAny.1 hv
    refine h ⟨group.name, .item group.name :: body⟩
      (mem_helperProductions.2 ⟨rfl, .inr ⟨body, hbody, rfl⟩⟩) ?_
    exact Language.append_mem_mul hu hv
  rw [mul_add, mul_one, add_mul, one_mul]
  refine add_le le_rfl (add_le ?_ ?_)
  · exact hbodies.trans le_add_self
  · exact hmore.trans le_add_self

/-- Sequences with the empty one among them stand for the empty word and what the others stand
for. -/
theorem Rule.languageAny_le_one_add (variants : List (List Rule)) :
    Rule.languageAny ρ variants ≤
      1 + Rule.languageAny ρ (variants.filter fun body => !body.isEmpty) := by
  refine Rule.languageAny_le_iff.2 fun variant hvariant => ?_
  cases variant with
  | nil => exact le_self_add
  | cons r rest =>
    refine le_trans (Rule.le_languageAny ?_) le_add_self
    exact List.mem_filter.2 ⟨hvariant, rfl⟩

/-- The variants of a repeated bracket stand for all repetitions of its contents. -/
theorem Flattening.kstar_le_repeatedBy {f : Flattening} {L : Language Terminal} {owner : String}
    (contents : List Rule) (h : ∀ group ∈ f.group owner contents, group.Closed ρ)
    (hL : L ≤ Rule.languageAny ρ f.variants) :
    L∗ ≤ Rule.languageAny ρ (f.repeatedBy owner).variants := by
  have hsplit := hL.trans (Rule.languageAny_le_one_add f.variants)
  unfold Flattening.group at h
  unfold Flattening.repeatedBy
  cases hbodies : f.variants.filter fun body => !body.isEmpty with
  | nil =>
    rw [hbodies] at hsplit
    have hone : L ≤ 1 := hsplit.trans (add_le le_rfl (Rule.languageAny_le_iff.2 nofun))
    rw [kstar_eq_one.2 hone]
    exact Rule.one_le_languageAny List.mem_cons_self
  | cons body bodies =>
    rw [hbodies] at hsplit h
    have hclosed := h _ List.mem_cons_self
    have hstar : L∗ ≤ 1 + ρ (helperName owner (f.count + 1)) :=
      kstar_le_of_mul_le_left le_self_add ((mul_le_mul_right hsplit _).trans hclosed.mul_le)
    refine hstar.trans (add_le ?_ ?_)
    · exact Rule.one_le_languageAny List.mem_cons_self
    · refine (Rule.languageAll_item (helperName owner (f.count + 1))).ge.trans ?_
      exact Rule.le_languageAny (List.mem_cons_of_mem _ List.mem_cons_self)

mutual

/-- A rule stands for nothing but what its variants stand for. -/
theorem Rule.language_le_flatten (owner : String) (count : Nat) : ∀ r : Rule, r ≠ .empty →
    (∀ group ∈ r.groups owner count, group.Closed ρ) →
    r.language ρ ≤ Rule.languageAny ρ (r.flatten owner count).variants
  | .optional body, _, h => by
    refine add_le (Rule.one_le_languageAny List.mem_cons_self) ?_
    refine (Rule.languageAll_le_flattenAll owner count body h).trans ?_
    exact Rule.languageAny_le_iff.2 fun variant hvariant =>
      Rule.le_languageAny (List.mem_cons_of_mem _ hvariant)
  | .repeated body, _, h => by
    refine Flattening.kstar_le_repeatedBy body (fun group hgroup => ?_)
      (Rule.languageAll_le_flattenAll owner count body fun group hgroup => ?_)
    · exact h group (List.mem_append_right _ hgroup)
    · exact h group (List.mem_append_left _ hgroup)
  | .item _, hne, _ | .literal _, hne, _ | .pattern _, hne, _ | .endOfInput, hne, _ => by
    rw [Rule.flatten_of_isFlat rfl, ← Rule.languageAll_singleton hne]
    exact Rule.le_languageAny List.mem_cons_self

/-- A sequence stands for nothing but what its variants stand for. -/
theorem Rule.languageAll_le_flattenAll (owner : String) (count : Nat) : ∀ rules : List Rule,
    (∀ group ∈ Rule.groupsAll owner count rules, group.Closed ρ) →
    Rule.languageAll ρ rules ≤ Rule.languageAny ρ (Rule.flattenAll owner count rules).variants
  | [], _ => Rule.le_languageAny List.mem_cons_self
  | r :: rest, h => by
    by_cases hempty : r = .empty
    · subst hempty
      exact Rule.one_le_languageAny List.mem_cons_self
    · rw [Rule.groupsAll_cons hempty] at h
      have hhead := Rule.language_le_flatten owner count r hempty
        fun group hgroup => h group (List.mem_append_left _ hgroup)
      have htail := Rule.languageAll_le_flattenAll owner (r.flatten owner count).count rest
        fun group hgroup => h group (List.mem_append_right _ hgroup)
      rw [Rule.languageAll_cons hempty, Rule.flattenAll_cons hempty,
        Rule.languageAny_joinVariants (Rule.isFlat_flatten owner count r hempty).variants]
      exact mul_le_mul' hhead htail

end

/-! ### Nothing is added -/

/-- The second languages bound the first ones where items are referred to, and bound the languages
of helpers by the repetitions of their groups. -/
structure Bounds (τ ρ : String → Language Terminal) (names : List String) (groups : List Group) :
    Prop where
  names : ∀ name ∈ names, τ name ≤ ρ name
  groups : ∀ group ∈ groups, τ group.name ≤ (Rule.languageAll ρ group.contents)∗

/-- Every body of a group is bounded by the contents of the group. -/
def BodiesBounded (τ ρ : String → Language Terminal) (groups : List Group) : Prop :=
  ∀ group ∈ groups, Rule.languageAny τ group.bodies ≤ Rule.languageAll ρ group.contents

variable {τ : String → Language Terminal}

theorem Bounds.left {names names' : List String} {groups groups' : List Group}
    (h : Bounds τ ρ (names ++ names') (groups ++ groups')) : Bounds τ ρ names groups :=
  ⟨fun name hname => h.names name (List.mem_append_left _ hname),
    fun group hgroup => h.groups group (List.mem_append_left _ hgroup)⟩

theorem Bounds.right {names names' : List String} {groups groups' : List Group}
    (h : Bounds τ ρ (names ++ names') (groups ++ groups')) : Bounds τ ρ names' groups' :=
  ⟨fun name hname => h.names name (List.mem_append_right _ hname),
    fun group hgroup => h.groups group (List.mem_append_right _ hgroup)⟩

theorem BodiesBounded.append {groups groups' : List Group} (h : BodiesBounded τ ρ groups)
    (h' : BodiesBounded τ ρ groups') : BodiesBounded τ ρ (groups ++ groups') := by
  intro group hgroup
  rcases List.mem_append.1 hgroup with hgroup | hgroup
  · exact h group hgroup
  · exact h' group hgroup

/-- The variants of a repeated bracket stand for repetitions of its contents alone. -/
theorem Flattening.repeatedBy_le_kstar (owner : String) {f : Flattening} {contents : List Rule}
    (hf : Rule.languageAny τ f.variants ≤ Rule.languageAll ρ contents)
    (h : ∀ group ∈ f.group owner contents, τ group.name ≤ (Rule.languageAll ρ group.contents)∗) :
    Rule.languageAny τ (f.repeatedBy owner).variants ≤ (Rule.languageAll ρ contents)∗ ∧
      BodiesBounded τ ρ (f.group owner contents) := by
  have hfilter : Rule.languageAny τ (f.variants.filter fun body => !body.isEmpty) ≤
      Rule.languageAll ρ contents :=
    Rule.languageAny_le_iff.2 fun body hbody =>
      Rule.languageAny_le_iff.1 hf body (List.mem_filter.1 hbody).1
  unfold Flattening.group at h ⊢
  unfold Flattening.repeatedBy
  cases hbodies : f.variants.filter fun body => !body.isEmpty with
  | nil =>
    refine ⟨Rule.languageAny_le_iff.2 fun variant hvariant => ?_, nofun⟩
    obtain rfl := List.mem_singleton.1 hvariant
    exact one_le_kstar
  | cons body bodies =>
    rw [hbodies] at h hfilter
    refine ⟨Rule.languageAny_le_iff.2 fun variant hvariant => ?_, fun group hgroup => ?_⟩
    · rcases List.mem_cons.1 hvariant with rfl | hvariant
      · exact one_le_kstar
      · obtain rfl := List.mem_singleton.1 hvariant
        rw [Rule.languageAll_item]
        exact h _ List.mem_cons_self
    · obtain rfl := List.mem_singleton.1 hgroup
      exact hfilter

mutual

/-- The variants of a rule stand for words of the rule alone. -/
theorem Rule.flatten_le_language (owner : String) (count : Nat) : ∀ r : Rule, r ≠ .empty →
    Bounds τ ρ r.references (r.groups owner count) →
    Rule.languageAny τ (r.flatten owner count).variants ≤ r.language ρ ∧
      BodiesBounded τ ρ (r.groups owner count)
  | .optional body, _, h => by
    obtain ⟨hvariants, hbodies⟩ := Rule.flattenAll_le_languageAll owner count body h
    refine ⟨Rule.languageAny_le_iff.2 fun variant hvariant => ?_, hbodies⟩
    rcases List.mem_cons.1 hvariant with rfl | hvariant
    · exact le_self_add
    · exact (Rule.languageAny_le_iff.1 hvariants variant hvariant).trans le_add_self
  | .repeated body, _, h => by
    obtain ⟨hvariants, hbodies⟩ := Rule.flattenAll_le_languageAll owner count body
      ⟨h.names, fun group hgroup => h.groups group (List.mem_append_left _ hgroup)⟩
    obtain ⟨hrepeated, hgroup⟩ := Flattening.repeatedBy_le_kstar owner hvariants
      fun group hgroup => h.groups group (List.mem_append_right _ hgroup)
    exact ⟨hrepeated, hbodies.append hgroup⟩
  | .item name, hne, h => by
    refine ⟨Rule.languageAny_le_iff.2 fun variant hvariant => ?_, nofun⟩
    obtain rfl := List.mem_singleton.1 hvariant
    rw [Rule.languageAll_singleton hne]
    exact h.names name List.mem_cons_self
  | .literal _, hne, _ | .pattern _, hne, _ | .endOfInput, hne, _ => by
    rw [Rule.flatten_of_isFlat rfl]
    refine ⟨Rule.languageAny_le_iff.2 fun variant hvariant => ?_, nofun⟩
    obtain rfl := List.mem_singleton.1 hvariant
    rw [Rule.languageAll_singleton hne]
    exact le_rfl

/-- The variants of a sequence stand for words of the sequence alone. -/
theorem Rule.flattenAll_le_languageAll (owner : String) (count : Nat) : ∀ rules : List Rule,
    Bounds τ ρ (Rule.referencesAll rules) (Rule.groupsAll owner count rules) →
    Rule.languageAny τ (Rule.flattenAll owner count rules).variants ≤ Rule.languageAll ρ rules ∧
      BodiesBounded τ ρ (Rule.groupsAll owner count rules)
  | [], _ => ⟨Rule.languageAny_le_iff.2 (by simp [Rule.flattenAll, Rule.languageAll]), nofun⟩
  | r :: rest, h => by
    by_cases hempty : r = .empty
    · subst hempty
      exact ⟨Rule.languageAny_le_iff.2 (by simp [Rule.flattenAll, Rule.languageAll]), nofun⟩
    · rw [Rule.groupsAll_cons hempty] at h ⊢
      obtain ⟨hhead, hbodies⟩ := Rule.flatten_le_language owner count r hempty h.left
      obtain ⟨htail, hbodies'⟩ :=
        Rule.flattenAll_le_languageAll owner (r.flatten owner count).count rest h.right
      refine ⟨?_, hbodies.append hbodies'⟩
      rw [Rule.languageAll_cons hempty, Rule.flattenAll_cons hempty,
        Rule.languageAny_joinVariants (Rule.isFlat_flatten owner count r hempty).variants]
      exact mul_le_mul' hhead htail

end

end

end BranchLR
