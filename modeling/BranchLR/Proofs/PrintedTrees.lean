import BranchLR.Forest
import BranchLR.Proofs.Flattening.Groups
import BranchLR.Proofs.Flattening.HelperNames
import BranchLR.Proofs.GrammarText.RoundTrip

/-!
# Printed trees

A forest can be told from the text in which it is shown. No quoted character is the start of another
one, and none starts with a double quote, so the closing quote shows where a leaf ends. A label ends
at its opening bracket, since names have no brackets in them. So a tree shows its own end, and in a
row of trees what follows a tree tells whether it is the last.
-/

namespace BranchLR

/-- Lists that are equal up to the first occurrence of a mark agree before and behind it. -/
theorem append_cons_inj_of_first {α : Type} {a : α} {as bs u v : List α} (has : a ∉ as)
    (hbs : a ∉ bs) (h : as ++ a :: u = bs ++ a :: v) : as = bs ∧ u = v := by
  induction as generalizing bs with
  | nil =>
    cases bs with
    | nil => exact ⟨rfl, (List.cons.inj h).2⟩
    | cons b bs =>
      obtain ⟨rfl, -⟩ := List.cons.inj h
      exact absurd List.mem_cons_self hbs
  | cons x as ih =>
    cases bs with
    | nil =>
      obtain ⟨rfl, -⟩ := List.cons.inj h
      exact absurd List.mem_cons_self has
    | cons b bs =>
      obtain ⟨rfl, hrest⟩ := List.cons.inj h
      obtain ⟨rfl, rfl⟩ := ih (fun hmem => has (List.mem_cons_of_mem _ hmem))
        (fun hmem => hbs (List.mem_cons_of_mem _ hmem)) hrest
      exact ⟨rfl, rfl⟩

/-! ### Escapes -/

theorem digitChar_inj : ∀ m < 16, ∀ n < 16, m.digitChar = n.digitChar → m = n := by
  decide

/-- A number can be told from its hexadecimal digits. -/
theorem hexadecimal_inj {m n : Nat} (h : hexadecimal m = hexadecimal n) : m = n := by
  induction m using Nat.strongRecOn generalizing n with
  | ind m ih =>
    unfold hexadecimal at h ih
    rw [Nat.toDigits_eq_if (by decide), Nat.toDigits_eq_if (n := n) (by decide)] at h
    split at h
    next hm =>
      split at h
      next hn => exact digitChar_inj m hm n hn (List.cons.inj h).1
      next hn =>
        have hlength := congrArg List.length h
        simp at hlength
    next hm =>
      split at h
      next hn =>
        have hlength := congrArg List.length h
        simp at hlength
      next hn =>
        obtain ⟨hinit, hlast⟩ := List.append_inj' h rfl
        have hdiv := ih (m / 16) (by omega) hinit
        have hmod := digitChar_inj _ (Nat.mod_lt m (by decide)) _ (Nat.mod_lt n (by decide))
          (List.cons.inj hlast).1
        omega

theorem brace_notMem_hexadecimal (n : Nat) : '\x7d' ∉ hexadecimal n := by
  have hdigit (d : Nat) : '\x7d' ≠ d.digitChar := (Nat.digitChar_ne _ (by decide)).symm
  induction n using Nat.strongRecOn with
  | ind n ih =>
    unfold hexadecimal at ih ⊢
    rw [Nat.toDigits_eq_if (by decide)]
    split
    next hn => simp [hdigit]
    next hn => simp [hdigit, ih (n / 16) (by omega)]

/-- The characters with an escape of their own, each with the letter behind the backslash. -/
def shortEscapes : List (Char × Char) :=
  [('\x00', '0'), ('\t', 't'), ('\r', 'r'), ('\n', 'n'), ('"', '"'), ('\\', '\\')]

/-- The ways in which a character is quoted. -/
inductive QuotedAs (c : Char) : List Char → Prop
  | short {letter : Char} (hmem : (c, letter) ∈ shortEscapes) : QuotedAs c ['\\', letter]
  | codePoint : QuotedAs c (codePointEscape c)
  | plain (hbackslash : c ≠ '\\') (hquote : c ≠ '"') : QuotedAs c [c]

theorem quotedAs_quotedChar (c : Char) : QuotedAs c (quotedChar c) := by
  by_cases hshort : c ∈ shortEscapes.map Prod.fst
  · simp only [shortEscapes, List.map_cons, List.map_nil, List.mem_cons, List.not_mem_nil,
      or_false] at hshort
    rcases hshort with rfl | rfl | rfl | rfl | rfl | rfl
    all_goals exact .short (by decide)
  · simp only [shortEscapes, List.map_cons, List.map_nil, List.mem_cons, List.not_mem_nil,
      or_false, not_or] at hshort
    obtain ⟨h0, ht, hr, hn, hquote, hbackslash⟩ := hshort
    unfold quotedChar
    rw [if_neg h0, if_neg ht, if_neg hr, if_neg hn, if_neg hquote, if_neg hbackslash]
    split
    · exact .codePoint
    · exact .plain hbackslash hquote

theorem fst_eq_of_shortEscapes :
    ∀ x ∈ shortEscapes, ∀ y ∈ shortEscapes, x.2 = y.2 → x.1 = y.1 := by
  decide

theorem snd_ne_of_shortEscapes : ∀ x ∈ shortEscapes, x.2 ≠ 'u' := by
  decide

/-- Quoting is a code of which no word starts another one. -/
theorem QuotedAs.append_inj {c d : Char} {as bs u v : List Char} (hc : QuotedAs c as)
    (hd : QuotedAs d bs) (h : as ++ u = bs ++ v) : c = d ∧ u = v := by
  cases hc with
  | short hmem =>
    cases hd with
    | short hmem' =>
      obtain ⟨hletter, hrest⟩ := List.cons.inj (List.cons.inj h).2
      exact ⟨fst_eq_of_shortEscapes _ hmem _ hmem' hletter, hrest⟩
    | codePoint =>
      exact absurd (List.cons.inj (List.cons.inj h).2).1 (snd_ne_of_shortEscapes _ hmem)
    | plain hbackslash => exact absurd (List.cons.inj h).1.symm hbackslash
  | codePoint =>
    cases hd with
    | short hmem =>
      exact absurd (List.cons.inj (List.cons.inj h).2).1.symm (snd_ne_of_shortEscapes _ hmem)
    | codePoint =>
      have hdigits : hexadecimal c.toNat ++ '\x7d' :: u = hexadecimal d.toNat ++ '\x7d' :: v := by
        simpa [codePointEscape] using h
      obtain ⟨hnumber, hrest⟩ := append_cons_inj_of_first (brace_notMem_hexadecimal _)
        (brace_notMem_hexadecimal _) hdigits
      exact ⟨Char.toNat_inj.1 (hexadecimal_inj hnumber), hrest⟩
    | plain hbackslash => exact absurd (List.cons.inj h).1.symm hbackslash
  | plain hbackslash =>
    cases hd with
    | short => exact absurd (List.cons.inj h).1 hbackslash
    | codePoint => exact absurd (List.cons.inj h).1 hbackslash
    | plain => exact List.cons.inj h

theorem QuotedAs.append_ne {c : Char} {as : List Char} (h : QuotedAs c as) (u v : List Char) :
    as ++ u ≠ '"' :: v := by
  intro heq
  cases h with
  | short => exact absurd (List.cons.inj heq).1 (by decide)
  | codePoint => exact absurd (List.cons.inj heq).1 (by decide)
  | plain _ hquote => exact hquote (List.cons.inj heq).1

/-- The closing quote shows where a quoted text ends. -/
theorem flatMap_quotedChar_append_inj {s t u v : List Char}
    (h : s.flatMap quotedChar ++ '"' :: u = t.flatMap quotedChar ++ '"' :: v) : s = t ∧ u = v := by
  induction s generalizing t with
  | nil =>
    cases t with
    | nil => exact ⟨rfl, (List.cons.inj h).2⟩
    | cons d t =>
      rw [List.flatMap_cons, List.append_assoc] at h
      exact absurd h.symm ((quotedAs_quotedChar d).append_ne _ _)
  | cons c s ih =>
    rw [List.flatMap_cons, List.append_assoc] at h
    cases t with
    | nil => exact absurd h ((quotedAs_quotedChar c).append_ne _ _)
    | cons d t =>
      rw [List.flatMap_cons, List.append_assoc] at h
      obtain ⟨rfl, hrest⟩ := (quotedAs_quotedChar c).append_inj (quotedAs_quotedChar d) h
      obtain ⟨rfl, rfl⟩ := ih hrest
      exact ⟨rfl, rfl⟩

theorem quoted_append_inj {s t : String} {u v : List Char}
    (h : (quoted s).toList ++ u = (quoted t).toList ++ v) : s = t ∧ u = v := by
  have hinner : s.toList.flatMap quotedChar ++ '"' :: u =
      t.toList.flatMap quotedChar ++ '"' :: v := by
    simpa [quoted] using h
  obtain ⟨htext, hrest⟩ := flatMap_quotedChar_append_inj hinner
  exact ⟨String.toList_inj.1 htext, hrest⟩

/-! ### Trees -/

/-- Whether a character may stand in a label: in the name of an item or of a helper. -/
def isLabelPart (c : Char) : Bool := c.isAlphanum || c == '_' || c == '#'

/-- Whether a text may label a parent. -/
def isLabel (text : String) : Bool := text.toList.all isLabelPart

theorem notMem_of_isLabel {text : String} (h : isLabel text = true) {c : Char}
    (hc : isLabelPart c = false) : c ∉ text.toList := by
  intro hmem
  have hpart := List.all_eq_true.1 h c hmem
  rw [hc] at hpart
  cases hpart

namespace Node

mutual

/-- Whether a tree has proper labels and no token that looks like the end of the input. -/
def isLegible : Node → Bool
  | leaf text => text != "\x7bEOF\x7d"
  | endOfInput => true
  | parent label children => isLabel label && areLegible children

/-- Whether all trees of a row are legible. -/
def areLegible : List Node → Bool
  | [] => true
  | n :: rest => n.isLegible && areLegible rest

end

theorem toList_render_parent (label : String) (children : List Node) :
    (parent label children).render.toList =
      label.toList ++ '(' :: ((renderAll children).toList ++ [')']) := by
  simp [render]

/-- What follows the first of several trees: the others, behind a space. -/
def afterFirst : List Node → List Char
  | [] => []
  | rest => ' ' :: (renderAll rest).toList

theorem toList_renderAll_nil : (renderAll []).toList = [] := by
  simp [renderAll]

theorem toList_renderAll_cons (n : Node) (rest : List Node) :
    (renderAll (n :: rest)).toList = n.render.toList ++ afterFirst rest := by
  cases rest with
  | nil => simp [renderAll, afterFirst]
  | cons => simp [renderAll, afterFirst]

/-- A parent starts with a character of its label or with a bracket. -/
theorem render_parent_append_ne {label : String} {children : List Node}
    (h : (parent label children).isLegible = true) {c : Char} (hc : isLabelPart c = false)
    (hbracket : c ≠ '(') (u v : List Char) :
    (parent label children).render.toList ++ u ≠ c :: v := by
  have hlabel : c ∉ label.toList := notMem_of_isLabel (Bool.and_eq_true_iff.1 h).1 hc
  rw [toList_render_parent]
  intro heq
  cases hchars : label.toList with
  | nil =>
    rw [hchars] at heq
    exact hbracket (List.cons.inj heq).1.symm
  | cons d ds =>
    rw [hchars] at heq hlabel
    obtain rfl := (List.cons.inj heq).1
    exact hlabel List.mem_cons_self

/-- No tree starts like the end of a row. -/
theorem render_append_ne {n : Node} (h : n.isLegible = true) (u v : List Char) :
    n.render.toList ++ u ≠ ')' :: v := by
  cases n with
  | leaf text => simp [render, quoted]
  | endOfInput => simp [render, quoted]
  | parent label children => exact render_parent_append_ne h (by decide) (by decide) u v

/-- A parent does not start with a quote. -/
theorem quoted_append_ne {label : String} {children : List Node}
    (h : (parent label children).isLegible = true) (text : String) (u v : List Char) :
    (quoted text).toList ++ u ≠ (parent label children).render.toList ++ v := by
  rw [quoted, String.toList_ofList]
  exact (render_parent_append_ne h (by decide) (by decide) v _).symm

mutual

/-- A tree shows its own end. -/
theorem render_append_inj : ∀ (a b : Node), a.isLegible = true → b.isLegible = true →
    ∀ {u v : List Char}, a.render.toList ++ u = b.render.toList ++ v → a = b ∧ u = v
  | leaf s, b => by
    intro ha hb u v h
    cases b with
    | leaf t =>
      obtain ⟨rfl, rfl⟩ := quoted_append_inj h
      exact ⟨rfl, rfl⟩
    | endOfInput => exact absurd (quoted_append_inj h).1 (by simpa [isLegible] using ha)
    | parent label children => exact absurd h (quoted_append_ne hb _ _ _)
  | endOfInput, b => by
    intro ha hb u v h
    cases b with
    | leaf t => exact absurd (quoted_append_inj h).1.symm (by simpa [isLegible] using hb)
    | endOfInput => exact ⟨rfl, (quoted_append_inj h).2⟩
    | parent label children => exact absurd h (quoted_append_ne hb _ _ _)
  | parent label as, b => by
    intro ha hb u v h
    cases b with
    | leaf t => exact absurd h.symm (quoted_append_ne ha _ _ _)
    | endOfInput => exact absurd h.symm (quoted_append_ne ha _ _ _)
    | parent label' bs =>
      obtain ⟨hlabel, has⟩ := Bool.and_eq_true_iff.1 ha
      obtain ⟨hlabel', hbs⟩ := Bool.and_eq_true_iff.1 hb
      simp only [toList_render_parent, List.append_assoc, List.cons_append, List.nil_append] at h
      obtain ⟨hnames, hrest⟩ := append_cons_inj_of_first (notMem_of_isLabel hlabel (by decide))
        (notMem_of_isLabel hlabel' (by decide)) h
      obtain rfl := String.toList_inj.1 hnames
      obtain ⟨rfl, rfl⟩ := renderAll_append_inj as bs has hbs hrest
      exact ⟨rfl, rfl⟩

/-- A closing bracket shows where a row of trees ends. -/
theorem renderAll_append_inj : ∀ (as bs : List Node), areLegible as = true →
    areLegible bs = true → ∀ {u v : List Char},
    (renderAll as).toList ++ ')' :: u = (renderAll bs).toList ++ ')' :: v → as = bs ∧ u = v
  | [], [] => by
    intro _ _ u v h
    rw [toList_renderAll_nil, List.nil_append, List.nil_append] at h
    exact ⟨rfl, (List.cons.inj h).2⟩
  | [], b :: bs => by
    intro _ hbs u v h
    rw [toList_renderAll_nil, List.nil_append, toList_renderAll_cons, List.append_assoc] at h
    exact absurd h.symm (render_append_ne (Bool.and_eq_true_iff.1 hbs).1 _ _)
  | a :: as, [] => by
    intro has _ u v h
    rw [toList_renderAll_nil, List.nil_append, toList_renderAll_cons, List.append_assoc] at h
    exact absurd h (render_append_ne (Bool.and_eq_true_iff.1 has).1 _ _)
  | a :: as, b :: bs => by
    intro has hbs u v h
    obtain ⟨ha, hthese⟩ := Bool.and_eq_true_iff.1 has
    obtain ⟨hb, hthose⟩ := Bool.and_eq_true_iff.1 hbs
    rw [toList_renderAll_cons, toList_renderAll_cons, List.append_assoc, List.append_assoc] at h
    obtain ⟨rfl, hafter⟩ := render_append_inj a b ha hb h
    cases as with
    | nil =>
      cases bs with
      | nil => exact ⟨rfl, (List.cons.inj hafter).2⟩
      | cons => exact absurd (List.cons.inj hafter).1 (by decide)
    | cons a' as =>
      cases bs with
      | nil => exact absurd (List.cons.inj hafter).1 (by decide)
      | cons b' bs =>
        obtain ⟨hrest, rfl⟩ := renderAll_append_inj (a' :: as) (b' :: bs) hthese hthose
          (List.cons.inj hafter).2
        rw [hrest]
        exact ⟨rfl, rfl⟩

end

end Node

/-- Whether all trees of a forest are legible. -/
def Forest.isLegible (f : Forest) : Bool := Node.areLegible f.roots

theorem Forest.render_inj {f f' : Forest} (hf : f.isLegible = true) (hf' : f'.isLegible = true)
    (h : f.render = f'.render) : f = f' := by
  have htext : (Node.renderAll f.roots).toList ++ [')'] =
      (Node.renderAll f'.roots).toList ++ [')'] :=
    congrArg (fun text : String => text.toList ++ [')']) h
  have hroots := (Node.renderAll_append_inj f.roots f'.roots hf hf' htext).1
  exact congrArg Forest.mk (List.reverse_inj.1 hroots)

/-! ### Labels of a grammar -/

theorem isLabel_of_isName {name : String} (h : GrammarText.isName name.toList = true) :
    isLabel name = true := by
  refine List.all_eq_true.2 fun c hc => ?_
  have hname := List.all_eq_true.1 h c hc
  simp only [isLabelPart, hname, Bool.true_or]

theorem isLabel_helperName {owner : String} (h : isLabel owner = true) (k : Nat) :
    isLabel (helperName owner k) = true := by
  have hdigits : (Nat.toDigits 10 k).all isLabelPart = true := by
    refine List.all_eq_true.2 fun c hc => ?_
    have hdigit := Nat.isDigit_of_mem_toDigits (by decide) (by decide) hc
    simp [isLabelPart, Char.isAlphanum, hdigit]
  rw [isLabel, toList_helperName, List.all_append, List.all_cons, hdigits]
  simpa [isLabel, isLabelPart] using h

section Library

variable [RegexLibrary]

/-- The names in a grammar that was read from a text are made of letters, digits and underscores. -/
theorem isLabel_of_read [BracketSet] {text : String} {g : Grammar} (h : Grammar.read text = .ok g)
    {item : Item} (hitem : item ∈ g.items) : isLabel item.name = true := by
  have hproper : (GrammarText.Sign.heading item.name item.kind).Proper :=
    GrammarText.proper_of_read h _ (List.mem_flatMap.2 ⟨item, hitem, List.mem_cons_self⟩)
  have hname : GrammarText.isName item.name.toList = true := by
    cases hkind : item.kind <;> exact (hkind ▸ hproper).1
  exact isLabel_of_isName hname

/-- A production is labelled by an item or by one of its helpers. -/
theorem isLabel_of_mem_productions {g : Grammar} (h : ∀ item ∈ g.items, isLabel item.name = true)
    {p : Production} (hp : p ∈ g.productions) : isLabel p.item = true := by
  rcases Grammar.mem_productions_iff.1 hp with ⟨item, hitem, -, -, hname, -⟩ | ⟨group, hgroup, hp⟩
  · rw [hname]
    exact h item hitem
  · obtain ⟨item, hitem, hgroup⟩ := List.mem_flatMap.1 hgroup
    obtain ⟨k, hk⟩ := Item.exists_helperName hgroup
    rw [(mem_helperProductions.1 hp).1, hk]
    exact isLabel_helperName (h item hitem) k

/-- A forest can be told from the text in which it is shown, if no token looks like the end of the
input and the labels are names as a grammar that was read from a text has them. -/
theorem Forest.render_eq_render_iff [BracketSet] :
    (∀ text g, Grammar.read text = .ok g →
      (∀ item ∈ g.items, isLabel item.name = true) ∧ ∀ p ∈ g.productions, isLabel p.item = true) ∧
      ∀ f f' : Forest, f.isLegible = true → f'.isLegible = true →
        (f.render = f'.render ↔ f = f') := by
  refine ⟨fun text g hread => ?_, fun f f' hf hf' => ?_⟩
  · have hitems : ∀ item ∈ g.items, isLabel item.name = true := fun _ => isLabel_of_read hread
    exact ⟨hitems, fun p => isLabel_of_mem_productions hitems⟩
  · exact ⟨Forest.render_inj hf hf', congrArg Forest.render⟩

end Library

/-- The helper of a group gives a label with a number sign, and one token with quotes in its text is
not shown like two tokens. -/
theorem Forest.render_eq_render_iff_quotes :
    (∃ g, Grammar.read "S: 'a' [',' S]" = .ok g ∧
      (∃ p ∈ g.productions, p.item = "S#1") ∧ ∀ p ∈ g.productions, isLabel p.item = true) ∧
      (Forest.mk [.leaf "a\" \"b"]).isLegible = true ∧
      (Forest.mk [.leaf "b", .leaf "a"]).isLegible = true ∧
      (Forest.mk [.leaf "a\" \"b"]).render ≠ (Forest.mk [.leaf "b", .leaf "a"]).render := by
  refine ⟨?_, by decide, by decide, fun h => ?_⟩
  · have hhelper : (Grammar.read "S: 'a' [',' S]").toOption.any
        (fun g => g.productions.any fun p => p.item == "S#1") = true := by
      decide +kernel
    cases hread : Grammar.read "S: 'a' [',' S]" with
    | error e =>
      rw [hread] at hhelper
      cases hhelper
    | ok g =>
      rw [hread] at hhelper
      have hlabels := (Forest.render_eq_render_iff.1 _ g hread).2
      exact ⟨g, rfl, by simpa [Except.toOption] using hhelper, hlabels⟩
  · have heq := (Forest.render_eq_render_iff.2 _ _ (by decide) (by decide)).1 h
    exact absurd heq (by decide)

end BranchLR
