import BranchLR.Rule

/-!
# Grammars

A grammar is an ordered collection of items with distinct names and, if it has been chosen, the
item to start from. Every item holds its alternatives, none of them empty; only an imported token,
which is recognised by the group of the tokens, holds none. These conditions are part of the type,
and the operations that build a grammar report which of them an addition would break.
-/

namespace BranchLR

variable [RegexLibrary]

/-- What an item stands for. -/
inductive ItemKind where
  /-- A sequence of symbols given by the alternatives. -/
  | rule
  /-- One token whose text satisfies an alternative. -/
  | token
  /-- One token whose group is the name of the item. -/
  | imported
  deriving DecidableEq

/-- A named part of a grammar with its alternative right-hand sides. -/
structure Item where
  name : String
  kind : ItemKind
  alternatives : List (List Rule)
  deriving DecidableEq

namespace Item

/-- Whether an item stands for single tokens. -/
def isToken (item : Item) : Bool := item.kind != .rule

/-- Whether an item is recognised by the group of a token. -/
def isImported (item : Item) : Bool := item.kind == .imported

/-- Whether a text satisfies one of the alternatives, of which the first rule counts. -/
def matchesText (item : Item) (text : String) : Bool :=
  item.alternatives.any fun alternative =>
    match alternative.head? with
    | some (.literal s) => s == text
    | some (.pattern p) => p.matchesText text
    | _ => false

/-- The items a grammar may hold. -/
structure WellFormed (item : Item) : Prop where
  imported_iff : item.isImported = true ↔ item.alternatives = []
  nonempty : [] ∉ item.alternatives

end Item

/-- An ordered collection of items with distinct names, and the item to start from. -/
structure Grammar where
  items : List Item
  start : Option String
  nodup_names : (items.map Item.name).Nodup
  wellFormed : ∀ item ∈ items, item.WellFormed
  start_mem : ∀ name ∈ start, name ∈ items.map Item.name
  deriving DecidableEq

/-- Why a grammar cannot be extended. -/
inductive GrammarError where
  | duplicateItem (name : String)
  | noAlternatives (name : String)
  | emptyAlternative (name : String)
  | importedTokenBody (name : String)
  | unknownStartItem (name : String)
  deriving DecidableEq

/-- The error as it is reported. -/
def GrammarError.message : GrammarError → String
  | duplicateItem name => "item '" ++ name ++ "' is already defined"
  | noAlternatives name => "item '" ++ name ++ "' has no alternatives"
  | emptyAlternative name => "item '" ++ name ++ "' has an empty alternative"
  | importedTokenBody name => "imported token '" ++ name ++ "' cannot have alternatives"
  | unknownStartItem name => "the start item '" ++ name ++ "' does not exist"

namespace Grammar

/-- The grammar without items. -/
def empty : Grammar := ⟨[], none, by simp, by simp, by simp⟩

/-- The names of the items, in order. -/
def names (g : Grammar) : List String := g.items.map Item.name

/-- The item with the given name. -/
def find? (g : Grammar) (name : String) : Option Item :=
  g.items.find? fun item => item.name == name

/-- Whether an item with the given name is defined. -/
def contains (g : Grammar) (name : String) : Bool := g.names.contains name

/-- The token-item with the given name. -/
def tokenItem? (g : Grammar) (name : String) : Option Item := (g.find? name).filter Item.isToken

/-- Adds an item behind the others. -/
def insert (g : Grammar) (item : Item) : Except GrammarError Grammar :=
  if imported : item.isImported = true ∧ item.alternatives ≠ [] then
    .error (.importedTokenBody item.name)
  else if missing : item.isImported = false ∧ item.alternatives = [] then
    .error (.noAlternatives item.name)
  else if nonempty : [] ∈ item.alternatives then
    .error (.emptyAlternative item.name)
  else if taken : item.name ∈ g.names then
    .error (.duplicateItem item.name)
  else
    .ok
      { items := g.items ++ [item]
        start := g.start
        nodup_names := by
          rw [List.map_append, List.nodup_append]
          refine ⟨g.nodup_names, by simp, ?_⟩
          intro a ha b hb
          rw [List.map_singleton, List.mem_singleton] at hb
          rintro rfl
          exact taken (hb ▸ ha)
        wellFormed := by
          intro other h
          rcases List.mem_append.1 h with h | h
          · exact g.wellFormed other h
          · rw [List.mem_singleton] at h
            subst h
            refine ⟨?_, nonempty⟩
            cases hi : other.isImported <;> simp_all
        start_mem := by
          intro name h
          rw [List.map_append, List.mem_append]
          exact .inl (g.start_mem name h) }

/-- Chooses the item to start from, which has to be defined. -/
def setStart (g : Grammar) (name : String) : Except GrammarError Grammar :=
  if h : name ∈ g.names then
    .ok { g with start := some name, start_mem := fun _ e => Option.mem_some_iff.1 e ▸ h }
  else .error (.unknownStartItem name)

end Grammar

end BranchLR
