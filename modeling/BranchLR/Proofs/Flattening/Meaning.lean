import Mathlib.Order.ConditionallyCompleteLattice.Basic
import BranchLR.Pattern.Engine
import BranchLR.Text.BracketPairs
import BranchLR.Proofs.Flattening.FlatGrammar
import BranchLR.Proofs.Flattening.Variants
import BranchLR.Proofs.GrammarText.Unmarked

/-!
# Flattening preserves meaning

The context-free grammar of the flat productions derives from every rule item the words of its
language. What it derives solves the equations of the nested rules, because a helper that is closed
under its productions has every repetition of its contents. In turn the least solution of these
equations becomes closed under all productions when every helper is given the repetitions of its
group, for which the names of the helpers have to be distinct.
-/

namespace BranchLR

open scoped Computability

section Library

variable [RegexLibrary]

variable {g : Grammar} {name : String}

/-! ### Names and their items -/

/-- An item is found by its name. -/
theorem Grammar.find?_of_mem {item : Item} (h : item ∈ g.items) :
    g.find? item.name = some item := by
  cases hfind : g.find? item.name with
  | none =>
    have hne := List.find?_eq_none.1 hfind item h
    simp at hne
  | some other =>
    have hname : other.name = item.name := by simpa using List.find?_some hfind
    rw [List.inj_on_of_nodup_map g.nodup_names (List.mem_of_find?_eq_some hfind) h hname]

theorem Grammar.find?_eq_none_of_notMem (h : name ∉ g.names) : g.find? name = none := by
  refine List.find?_eq_none.2 fun item hitem hname => h ?_
  rw [← beq_iff_eq.1 hname]
  exact List.mem_map_of_mem hitem

/-- A token-item has the language of its terminal. -/
theorem Grammar.languages_of_token (h : (g.tokenItem? name).isSome = true) :
    g.languages name = {[.token name]} := by
  obtain ⟨item, hitem⟩ := Option.isSome_iff_exists.1 h
  obtain ⟨hfind, htoken⟩ := Option.filter_eq_some_iff.1 hitem
  rw [← Grammar.unfold_languages]
  simp [Grammar.unfold, hfind, htoken]

/-- A rule item has the language of its alternatives. -/
theorem Grammar.languages_of_item {item : Item} (h : item ∈ g.items)
    (hrule : item.isToken = false) :
    g.languages item.name = Rule.languageAny g.languages item.alternatives := by
  conv_lhs => rw [← Grammar.unfold_languages]
  simp [Grammar.unfold, Grammar.find?_of_mem h, hrule]

/-- Only rule items have counted alternatives, and these are all of them. -/
theorem Item.exists_mem_counted_iff {item : Item} {alternative : List Rule} :
    (∃ n, (n, alternative) ∈ item.counted) ↔
      item.isToken = false ∧ alternative ∈ item.alternatives := by
  unfold Item.counted
  cases item.isToken with
  | true => simp
  | false => simpa using exists_mem_countedAlternatives_iff

/-- Helpers are no tokens. -/
theorem Grammar.Unmarked.tokenItem?_group (h : g.Unmarked) {group : Group}
    (hgroup : group ∈ g.groups) : g.tokenItem? group.name = none := by
  rw [Grammar.tokenItem?, Grammar.find?_eq_none_of_notMem (h.name_notMem hgroup)]
  rfl

/-- Neither rule items nor helpers are tokens. -/
theorem Grammar.Unmarked.tokenItem?_production (h : g.Unmarked) {p : Production}
    (hp : p ∈ g.productions) : g.tokenItem? p.item = none := by
  rcases Grammar.mem_productions_iff.1 hp with ⟨item, hitem, choice, hchoice, hname, -⟩ |
    ⟨group, hgroup, hp⟩
  · obtain ⟨hrule, -⟩ := Item.exists_mem_counted_iff.1 ⟨choice.1, hchoice⟩
    rw [Grammar.tokenItem?, hname, Grammar.find?_of_mem hitem]
    simp [hrule]
  · rw [(mem_helperProductions.1 hp).1, h.tokenItem?_group hgroup]

/-! ### Nested words are derived -/

/-- The words of an item are derived from it. -/
theorem Grammar.Unmarked.languages_le_derived (h : g.Unmarked) (start : String) :
    g.languages ≤ g.withTokens (g.flat start).derived := by
  have hclosed : ∀ p ∈ g.productions,
      Rule.languageAll (g.withTokens (g.flat start).derived) p.rules ≤
        g.withTokens (g.flat start).derived p.item := by
    intro p hp
    rw [Grammar.withTokens_of_eq_none (h.tokenItem?_production hp)]
    exact (Grammar.closed_flat_iff start).1 (g.flat start).closed_derived p hp
  refine Grammar.languages_le fun name => ?_
  unfold Grammar.unfold
  split
  next => exact bot_le
  next item hfind =>
    obtain rfl : item.name = name := by simpa using List.find?_some hfind
    have hitem := List.mem_of_find?_eq_some hfind
    split
    next htoken =>
      rw [Grammar.withTokens_of_token (by simp [Grammar.tokenItem?, hfind, htoken])]
    next hrule =>
      have hrule : item.isToken = false := by simpa using hrule
      refine Rule.languageAny_le_iff.2 fun alternative halternative => ?_
      obtain ⟨n, hn⟩ := Item.exists_mem_counted_iff.2 ⟨hrule, halternative⟩
      refine (Rule.languageAll_le_flattenAll item.name n alternative fun group hgroup p hp => ?_).trans
        (Rule.languageAny_le_iff.2 fun variant hvariant => ?_)
      · have hmem : group ∈ g.groups :=
          List.mem_flatMap.2 ⟨item, hitem, List.mem_flatMap.2 ⟨_, hn, hgroup⟩⟩
        exact hclosed p (Grammar.mem_productions_iff.2 (.inr ⟨group, hmem, hp⟩))
      · exact hclosed ⟨item.name, variant⟩
          (Grammar.mem_productions_iff.2 (.inl ⟨item, hitem, _, hn, rfl, hvariant⟩))

/-! ### Derived words are nested -/

/-- The languages of the items, with the repetitions of its group for every helper. -/
def Grammar.extended (g : Grammar) (name : String) : Language Terminal :=
  if '#' ∈ name.toList then
    ⨅ group ∈ g.groups, ⨅ _ : group.name = name, (Rule.languageAll g.languages group.contents)∗
  else g.languages name

theorem Grammar.extended_of_unmarked (h : '#' ∉ name.toList) :
    g.withTokens g.extended name = g.languages name := by
  cases htoken : g.tokenItem? name with
  | none => rw [Grammar.withTokens_of_eq_none htoken, Grammar.extended, if_neg h]
  | some item =>
    have hsome : (g.tokenItem? name).isSome = true := by simp [htoken]
    rw [Grammar.withTokens_of_token hsome, Grammar.languages_of_token hsome]

/-- A helper has the repetitions of its own group, since no other group shares its name. -/
theorem Grammar.Unmarked.extended_of_group (h : g.Unmarked) {group : Group}
    (hgroup : group ∈ g.groups) :
    g.extended group.name = (Rule.languageAll g.languages group.contents)∗ := by
  rw [Grammar.extended, if_pos (Grammar.mark_mem_of_group hgroup)]
  refine le_antisymm ?_ (le_iInf₂ fun other hother => le_iInf fun hname => ?_)
  · exact iInf₂_le_of_le group hgroup (iInf_le _ rfl)
  · rw [List.inj_on_of_nodup_map h.nodup_names hother hgroup hname]

/-- The extended languages keep to the productions of the items. -/
theorem Grammar.Unmarked.bounds_alternative (h : g.Unmarked) {item : Item} (hitem : item ∈ g.items)
    {n : Nat} {alternative : List Rule} (hchoice : (n, alternative) ∈ item.counted) :
    Bounds (g.withTokens g.extended) g.languages (Rule.referencesAll alternative)
      (Rule.groupsAll item.name n alternative) := by
  obtain ⟨-, halternative⟩ := Item.exists_mem_counted_iff.1 ⟨n, hchoice⟩
  refine ⟨fun name hname => ?_, fun group hgroup => ?_⟩
  · rw [Grammar.extended_of_unmarked (h.references item hitem alternative halternative name hname)]
  · have hmem : group ∈ g.groups :=
      List.mem_flatMap.2 ⟨item, hitem, List.mem_flatMap.2 ⟨_, hchoice, hgroup⟩⟩
    rw [Grammar.withTokens_of_eq_none (h.tokenItem?_group hmem), h.extended_of_group hmem]

/-- The extended languages are closed under all flat productions. -/
theorem Grammar.Unmarked.closed_extended (h : g.Unmarked) (start : String) :
    (g.flat start).Closed g.extended := by
  refine (Grammar.closed_flat_iff start).2 fun p hp => ?_
  rcases Grammar.mem_productions_iff.1 hp with ⟨item, hitem, ⟨n, alternative⟩, hchoice, hname,
    hvariant⟩ | ⟨group, hgroup, hp⟩
  · obtain ⟨hrule, halternative⟩ := Item.exists_mem_counted_iff.1 ⟨n, hchoice⟩
    obtain ⟨hvariants, -⟩ := Rule.flattenAll_le_languageAll item.name n alternative
      (h.bounds_alternative hitem hchoice)
    have hunmarked : '#' ∉ item.name.toList := h.names _ (List.mem_map_of_mem hitem)
    rw [hname, Grammar.extended, if_neg hunmarked, Grammar.languages_of_item hitem hrule]
    exact (Rule.languageAny_le_iff.1 hvariants p.rules hvariant).trans
      (Rule.le_languageAny halternative)
  · obtain ⟨item, hitem, hgroups⟩ := List.mem_flatMap.1 hgroup
    obtain ⟨⟨n, alternative⟩, hchoice, hgroups⟩ := List.mem_flatMap.1 hgroups
    obtain ⟨-, hbodies⟩ := Rule.flattenAll_le_languageAll item.name n alternative
      (h.bounds_alternative hitem hchoice)
    have hbody := Rule.languageAny_le_iff.1 (hbodies group hgroups)
    have hlanguage := h.extended_of_group hgroup
    obtain ⟨hname, hrules | ⟨body, hmem, hrules⟩⟩ := mem_helperProductions.1 hp
    · rw [hname, hlanguage]
      exact (hbody p.rules hrules).trans le_kstar
    · rw [hname, hrules]
      show g.withTokens g.extended group.name * Rule.languageAll _ body ≤ _
      rw [Grammar.withTokens_of_eq_none (h.tokenItem?_group hgroup), hlanguage]
      exact (mul_le_mul_right (hbody body hmem) _).trans kstar_mul_le_kstar

/-! ### The meaning of a grammar -/

/-- A helper has the productions of its group and no others. -/
theorem Grammar.Unmarked.mem_group_productions_iff (h : g.Unmarked) {group : Group}
    (hgroup : group ∈ g.groups) {p : Production} :
    p ∈ group.productions ↔ p ∈ g.productions ∧ p.item = group.name := by
  constructor
  · intro hp
    exact ⟨Grammar.mem_productions_iff.2 (.inr ⟨group, hgroup, hp⟩), (mem_helperProductions.1 hp).1⟩
  · rintro ⟨hp, hname⟩
    rcases Grammar.mem_productions_iff.1 hp with ⟨item, hitem, -, -, hitemName, -⟩ |
      ⟨other, hother, hp⟩
    · refine absurd ?_ (h.name_notMem hgroup)
      rw [← hname, hitemName]
      exact List.mem_map_of_mem hitem
    · have hotherName : other.name = group.name := (mem_helperProductions.1 hp).1.symm.trans hname
      rwa [List.inj_on_of_nodup_map h.nodup_names hother hgroup hotherName] at hp

/-- The words of a rule item are those that the flat productions derive from it. -/
theorem Grammar.Unmarked.mem_languages_iff (h : g.Unmarked) {item : Item} (hitem : item ∈ g.items)
    (hrule : item.isToken = false) (w : List Terminal) :
    w ∈ g.languages item.name ↔ w ∈ (g.flat item.name).language := by
  constructor
  · intro hw
    have hderived := h.languages_le_derived item.name item.name hw
    have htoken : g.tokenItem? item.name = none := by
      simp [Grammar.tokenItem?, Grammar.find?_of_mem hitem, hrule]
    rwa [Grammar.withTokens_of_eq_none htoken] at hderived
  · intro hw
    have hextended := ContextFreeGrammar.derived_le (h.closed_extended item.name) item.name hw
    have hunmarked : '#' ∉ item.name.toList := h.names _ (List.mem_map_of_mem hitem)
    rwa [Grammar.extended, if_neg hunmarked] at hextended

/-- **Flattening preserves meaning.** In a grammar whose names are free of the mark of helpers, as
every grammar is that has been read from a text, the words of a rule item are those that the flat
productions derive from it. The helpers of different groups have different names, made from those of
their owners, none of them is the name of an item, and each has the productions of its own group
alone. -/
theorem flattening_preserves_meaning [BracketSet] :
    (∀ text g, Grammar.read text = .ok g → g.Unmarked) ∧
    ∀ g : Grammar, g.Unmarked →
      (∀ item ∈ g.items, item.isToken = false →
        ∀ w, w ∈ g.languages item.name ↔ w ∈ (g.flat item.name).language) ∧
      (g.groups.map Group.name).Nodup ∧
      ∀ group ∈ g.groups, (∃ item ∈ g.items, ∃ k, group.name = helperName item.name k) ∧
        group.name ∉ g.names ∧
        ∀ p, p ∈ group.productions ↔ p ∈ g.productions ∧ p.item = group.name := by
  refine ⟨fun text g => Grammar.unmarked_of_read, fun g h => ⟨fun item => h.mem_languages_iff,
    h.nodup_names, fun group hgroup => ⟨?_, h.name_notMem hgroup, fun p => ?_⟩⟩⟩
  · obtain ⟨item, hitem, hgroups⟩ := List.mem_flatMap.1 hgroup
    obtain ⟨k, hk⟩ := Item.exists_helperName hgroups
    exact ⟨item, hitem, k, hk⟩
  · exact h.mem_group_productions_iff hgroup

end Library

/-- A list of elements, with commas or without. -/
def enumeration : Grammar where
  items := [⟨"S", .rule,
    [[.literal "a", .repeated [.optional [.literal ","], .literal "a", .empty, .literal "b"]]]⟩]
  start := some "S"
  nodup_names := by decide
  wellFormed := by
    intro item h
    obtain rfl := List.mem_singleton.1 h
    exact ⟨by decide, by decide⟩
  start_mem := by decide

/-- What may stand behind the first element. -/
theorem mem_languageAll_enumeration (ρ : String → Language Terminal) :
    let body : List Rule := [.optional [.literal ","], .literal "a", .empty, .literal "b"]
    [.literal ",", .literal "a"] ∈ Rule.languageAll ρ body ∧
      [.literal "a"] ∈ Rule.languageAll ρ body := by
  have hcomma : [.literal ","] ∈ Rule.languageAll ρ [.literal ","] :=
    Language.mem_mul.2 ⟨_, rfl, [], rfl, rfl⟩
  have helement : [.literal "a"] ∈ Rule.languageAll ρ [.literal "a", .empty, .literal "b"] :=
    Language.mem_mul.2 ⟨_, rfl, [], rfl, rfl⟩
  exact ⟨Language.mem_mul.2 ⟨_, .inr hcomma, _, helement, rfl⟩,
    Language.mem_mul.2 ⟨[], .inl rfl, _, helement, rfl⟩⟩

theorem unmarked_enumeration : enumeration.Unmarked := ⟨by decide, by decide⟩

/-- The flat productions of lists derive a list in which one comma is left out. -/
theorem flattening_preserves_meaning_enumeration :
    enumeration.Unmarked ∧
      [.literal "a", .literal ",", .literal "a", .literal "a"] ∈
        (enumeration.flat "S").language := by
  refine ⟨unmarked_enumeration, ((flattening_preserves_meaning.2 _ unmarked_enumeration).1 _
    List.mem_cons_self rfl _).1 ?_⟩
  rw [Grammar.languages_of_item List.mem_cons_self rfl]
  obtain ⟨hcomma, hplain⟩ := mem_languageAll_enumeration enumeration.languages
  have hstar := Language.join_mem_kstar (List.forall_mem_cons.2 ⟨hcomma,
    List.forall_mem_cons.2 ⟨hplain, List.forall_mem_nil _⟩⟩)
  exact Rule.mem_languageAny.2 ⟨_, List.mem_cons_self,
    Language.mem_mul.2 ⟨_, rfl, _, Language.mem_mul.2 ⟨_, hstar, [], rfl, rfl⟩, rfl⟩⟩

end BranchLR
