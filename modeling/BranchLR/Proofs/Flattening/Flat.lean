import BranchLR.Production

/-!
# Flat productions are flat

Resolving brackets leaves only rules that stand for single symbols. Helpers refer to themselves by
an item, so their productions are flat as well.
-/

namespace BranchLR

variable [RegexLibrary]

theorem mem_joinVariants {heads tails : List (List Rule)} {variant : List Rule} :
    variant ∈ joinVariants heads tails ↔
      ∃ head ∈ heads, ∃ tail ∈ tails, variant = head ++ tail := by
  simp only [joinVariants, List.mem_eraseDups, List.mem_flatMap, List.mem_map]
  constructor
  · rintro ⟨head, hhead, tail, htail, rfl⟩
    exact ⟨head, hhead, tail, htail, rfl⟩
  · rintro ⟨head, hhead, tail, htail, rfl⟩
    exact ⟨head, hhead, tail, htail, rfl⟩

theorem mem_helperProductions {name : String} {bodies : List (List Rule)} {p : Production} :
    p ∈ helperProductions name bodies ↔
      p.item = name ∧ (p.rules ∈ bodies ∨ ∃ body ∈ bodies, p.rules = .item name :: body) := by
  obtain ⟨item, rules⟩ := p
  simp only [helperProductions, List.mem_append, List.mem_map, Production.mk.injEq]
  constructor
  · rintro (⟨body, hbody, rfl, rfl⟩ | ⟨body, hbody, rfl, rfl⟩)
    · exact ⟨rfl, .inl hbody⟩
    · exact ⟨rfl, .inr ⟨body, hbody, rfl⟩⟩
  · rintro ⟨rfl, hbody | ⟨body, hbody, rfl⟩⟩
    · exact .inl ⟨rules, hbody, rfl, rfl⟩
    · exact .inr ⟨body, hbody, rfl, rfl⟩

/-- A sequence that does not begin with the empty match is flattened rule by rule. -/
theorem Rule.flattenAll_cons {owner : String} {count : Nat} {r : Rule} {rest : List Rule}
    (h : r ≠ .empty) :
    Rule.flattenAll owner count (r :: rest) =
      ⟨joinVariants (r.flatten owner count).variants
          (Rule.flattenAll owner (r.flatten owner count).count rest).variants,
        (r.flatten owner count).helpers ++
          (Rule.flattenAll owner (r.flatten owner count).count rest).helpers,
        (Rule.flattenAll owner (r.flatten owner count).count rest).count⟩ := by
  cases r <;> first | rfl | exact absurd rfl h

/-- A flat rule stands for itself. -/
theorem Rule.flatten_of_isFlat {owner : String} {count : Nat} {r : Rule} (h : r.isFlat = true) :
    r.flatten owner count = ⟨[[r]], [], count⟩ := by
  cases r <;> first | rfl | simp [Rule.isFlat] at h

/-- A sequence of single symbols. -/
def FlatRules (rules : List Rule) : Prop := ∀ rule ∈ rules, rule.isFlat = true

/-- A flattening that leaves nothing to resolve. -/
structure Flattening.IsFlat (f : Flattening) : Prop where
  variants : ∀ variant ∈ f.variants, FlatRules variant
  helpers : ∀ production ∈ f.helpers, FlatRules production.rules

/-- A helper over flat contents is flat. -/
theorem Flattening.IsFlat.repeatedBy {f : Flattening} (h : f.IsFlat) (owner : String) :
    (f.repeatedBy owner).IsFlat := by
  have hbodies : ∀ body ∈ f.variants.filter (fun body => !body.isEmpty), FlatRules body :=
    fun body hbody => h.variants body (List.mem_filter.1 hbody).1
  unfold Flattening.repeatedBy
  split
  next => exact ⟨by simp [FlatRules], h.helpers⟩
  next bodies _ =>
    refine ⟨by simp [FlatRules, Rule.isFlat], fun production hproduction => ?_⟩
    rcases List.mem_append.1 hproduction with hproduction | hproduction
    · exact h.helpers production hproduction
    · rcases mem_helperProductions.1 hproduction with ⟨-, hbody | ⟨body, hbody, hrules⟩⟩
      · exact hbodies _ hbody
      · rw [hrules]
        intro rule hrule
        rcases List.mem_cons.1 hrule with rfl | hrule
        · rfl
        · exact hbodies body hbody rule hrule

mutual

/-- Flattening resolves every rule but the empty match. -/
theorem Rule.isFlat_flatten (owner : String) (count : Nat) :
    ∀ r : Rule, r ≠ .empty → (r.flatten owner count).IsFlat
  | .optional body, _ => by
    have hbody := isFlat_flattenAll owner count body
    refine ⟨fun variant hvariant => ?_, hbody.helpers⟩
    rcases List.mem_cons.1 hvariant with rfl | hvariant
    · simp [FlatRules]
    · exact hbody.variants variant hvariant
  | .repeated body, _ => (isFlat_flattenAll owner count body).repeatedBy owner
  | .item _, _ | .literal _, _ | .pattern _, _ | .endOfInput, _ => by
    rw [Rule.flatten_of_isFlat rfl]
    exact ⟨by simp [FlatRules, Rule.isFlat], by simp⟩

/-- Flattening resolves every sequence, since the empty match is cut off with what follows it. -/
theorem Rule.isFlat_flattenAll (owner : String) (count : Nat) :
    ∀ rules : List Rule, (Rule.flattenAll owner count rules).IsFlat
  | [] => ⟨by simp [Rule.flattenAll, FlatRules], by simp [Rule.flattenAll]⟩
  | r :: rest => by
    by_cases hempty : r = .empty
    · subst hempty
      exact ⟨by simp [Rule.flattenAll, FlatRules], by simp [Rule.flattenAll]⟩
    · have hhead := isFlat_flatten owner count r hempty
      have htail := isFlat_flattenAll owner (r.flatten owner count).count rest
      rw [Rule.flattenAll_cons hempty]
      refine ⟨fun variant hvariant rule hrule => ?_, fun production hproduction => ?_⟩
      · obtain ⟨first, hfirst, second, hsecond, rfl⟩ := mem_joinVariants.1 hvariant
        rcases List.mem_append.1 hrule with hrule | hrule
        · exact hhead.variants first hfirst rule hrule
        · exact htail.variants second hsecond rule hrule
      · rcases List.mem_append.1 hproduction with hproduction | hproduction
        · exact hhead.helpers production hproduction
        · exact htail.helpers production hproduction

end

/-- The productions of alternatives are flat. -/
theorem flatRules_of_mem_alternativeProductions {owner : String} {count : Nat}
    {alternatives : List (List Rule)} {p : Production}
    (h : p ∈ alternativeProductions owner count alternatives) : FlatRules p.rules := by
  induction alternatives generalizing count with
  | nil => cases h
  | cons alternative rest ih =>
    have hflat := Rule.isFlat_flattenAll owner count alternative
    rcases List.mem_append.1 h with h | h
    · rcases List.mem_append.1 h with h | h
      · exact hflat.helpers p h
      · obtain ⟨variant, hvariant, rfl⟩ := List.mem_map.1 h
        exact hflat.variants variant hvariant
    · exact ih h

/-- The productions of a grammar are flat. -/
theorem Grammar.flatRules_of_mem_productions {g : Grammar} {p : Production}
    (h : p ∈ g.productions) : FlatRules p.rules := by
  obtain ⟨item, -, hp⟩ := List.mem_flatMap.1 (List.mem_eraseDups.1 h)
  unfold Item.productions at hp
  split at hp
  · cases hp
  · exact flatRules_of_mem_alternativeProductions hp

end BranchLR
