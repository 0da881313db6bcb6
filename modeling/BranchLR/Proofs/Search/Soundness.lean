import BranchLR.Pattern.Engine
import BranchLR.Proofs.Search.Representation

/-!
# Accepted trees are derivations

A search that accepts leaves a single root, and this root derives the whole input from the accepted
item by productions that the table reduces by. Nothing is asked of the table, and the history of the
search does not matter, because every snapshot that a search works on or returns to is sound.
-/

namespace BranchLR.Problem

section Library

variable [RegexLibrary]

variable {p : Problem} {s : Snapshot}

/-- The forest of a complete parse is a derivation tree of the whole input. -/
theorem Sound.derives_of_accepts (h : p.Sound s) (haccepts : p.accepts s = true) :
    ∃ tree, s.forest.roots = [tree] ∧
      Derives p.grammar p.input p.table.Reduces (.item p.table.acceptItem) 0 p.input.size tree := by
  obtain ⟨base, hbelow, hplace, hsymbol⟩ := accepts_iff.1 haccepts
  have hrepresents := h.represents
  have hend : s.top.place = p.input.size := Nat.le_antisymm hrepresents.place_le hplace
  unfold Snapshot.stack at hrepresents
  rw [hbelow] at hrepresents
  generalize hroots : s.forest.newestFirst = roots at hrepresents
  cases hrepresents with
  | @push _ _ _ tree _ hbase hstands =>
    cases hbase with
    | bottom _ hstart =>
      rw [hstart, hend, hsymbol] at hstands
      exact ⟨tree, by simp [Forest.roots, hroots], hstands.derives (by simp [Rule.recognises])⟩

/-- **Soundness of acceptance.** Whatever the table, the horizon and the step limit are, an accepted
forest has one root, the root derives the whole input from the accepted item by productions of the
table, and the tokens below it are the tokens of the input in their order. -/
theorem derives_of_accepted {limit : Option Nat} {forest : Forest}
    (h : p.Ends limit (.ok forest)) :
    ∃ tree, forest.roots = [tree] ∧
      Derives p.grammar p.input p.table.Reduces (.item p.table.acceptItem) 0 p.input.size tree ∧
      forest.leaves = p.input.tokens.toList.map Token.text := by
  rcases h.cases with ⟨n, -, hlimit⟩ | ⟨r, hr, hstops⟩
  · cases hlimit
  · cases hstops with
    | acceptance haccepted =>
      obtain ⟨-, haccepts⟩ := attempt_accepted_iff.1 haccepted
      obtain ⟨tree, hroots, hderives⟩ := hr.sound.1.derives_of_accepts haccepts
      refine ⟨tree, hroots, hderives, ?_⟩
      obtain ⟨-, hleaves⟩ := hderives.leaves_eq
      have htexts : p.input.texts 0 p.input.size = p.input.tokens.toList.map Token.text := by
        simp [TokenStream.texts, TokenStream.size]
      rw [Forest.leaves, hroots, Node.leavesAll, Node.leavesAll, List.append_nil, hleaves, htexts]

end Library

/-- A search whose first candidate leads to a production that does not fit. -/
def detour : Problem where
  grammar := .empty
  table := .ofRows [.shift 1, .shift 0]
    #[⟨[(.literal "x", [.reduce ⟨"S", [.literal "x"]⟩]), (.item "S", [.accept])]⟩,
      ⟨[(.literal "x", [.reduce ⟨"S", [.literal "y"]⟩])]⟩]
    "S"
  input := ⟨#[⟨"IDENT", "x", ⟨1, 1⟩⟩]⟩
  horizon := 100

/-- The search that has to return from a dead end accepts a tree over its only token. -/
theorem derives_of_accepted_detour :
    detour.Ends (some 5) (.ok ⟨[.parent "S" [.leaf "x"]]⟩) ∧
      ∃ tree, [Node.parent "S" [.leaf "x"]] = [tree] ∧
        Derives detour.grammar detour.input detour.table.Reduces (.item "S") 0 1 tree ∧
        Forest.leaves ⟨[.parent "S" [.leaf "x"]]⟩ = ["x"] :=
  have h : detour.Ends (some 5) (.ok ⟨[.parent "S" [.leaf "x"]]⟩) := rfl
  ⟨h, derives_of_accepted h⟩

end BranchLR.Problem
