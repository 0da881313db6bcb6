import Mathlib.Computability.ContextFreeGrammar
import Mathlib.Order.CompletePartialOrder

/-!
# Context-free languages as least solutions

Given a language for every nonterminal, a string of symbols stands for the words that are put
together from words of its symbols. What the nonterminals derive is closed under the rules in this
sense, and it is contained in every other choice of languages that is.
-/

namespace ContextFreeGrammar

variable {T : Type} {g : ContextFreeGrammar T}

/-- The words that a string of symbols stands for when those of the nonterminals are given. -/
def formLanguage (g : ContextFreeGrammar T) (ρ : g.NT → Language T) :
    List (Symbol T g.NT) → Language T
  | [] => 1
  | .terminal a :: form => {[a]} * g.formLanguage ρ form
  | .nonterminal A :: form => ρ A * g.formLanguage ρ form

/-- Languages that every rule keeps to. -/
def Closed (g : ContextFreeGrammar T) (ρ : g.NT → Language T) : Prop :=
  ∀ r ∈ g.rules, g.formLanguage ρ r.output ≤ ρ r.input

/-- The words that a nonterminal derives. -/
def derived (g : ContextFreeGrammar T) (A : g.NT) : Language T :=
  {w | g.Derives [.nonterminal A] (w.map .terminal)}

theorem formLanguage_append (ρ : g.NT → Language T) (u v : List (Symbol T g.NT)) :
    g.formLanguage ρ (u ++ v) = g.formLanguage ρ u * g.formLanguage ρ v := by
  induction u with
  | nil => exact (one_mul _).symm
  | cons x u ih =>
    cases x with
    | terminal a => simp only [List.cons_append, formLanguage, ih, mul_assoc]
    | nonterminal A => simp only [List.cons_append, formLanguage, ih, mul_assoc]

/-- A string of terminals stands for itself. -/
theorem mem_formLanguage_terminal (ρ : g.NT → Language T) (w : List T) :
    w ∈ g.formLanguage ρ (w.map .terminal) := by
  induction w with
  | nil => exact Language.nil_mem_one
  | cons a w ih =>
    have hhead : [a] ∈ ({[a]} : Language T) := rfl
    exact Language.append_mem_mul hhead ih

/-- Rewriting keeps to closed languages. -/
theorem formLanguage_le_of_derives {ρ : g.NT → Language T} (hρ : g.Closed ρ)
    {u v : List (Symbol T g.NT)} (h : g.Derives u v) : g.formLanguage ρ v ≤ g.formLanguage ρ u := by
  induction h with
  | refl => exact le_rfl
  | tail _ hproduces ih =>
    refine le_trans ?_ ih
    obtain ⟨r, hr, hrewrites⟩ := hproduces
    obtain ⟨p, q, rfl, rfl⟩ := hrewrites.exists_parts
    have hinput : g.formLanguage ρ [.nonterminal r.input] = ρ r.input := mul_one _
    rw [formLanguage_append, formLanguage_append, formLanguage_append, formLanguage_append, hinput]
    exact mul_le_mul_left (mul_le_mul_right (hρ r hr) _) _

/-- What a nonterminal derives is in every closed language of it. -/
theorem derived_le {ρ : g.NT → Language T} (hρ : g.Closed ρ) (A : g.NT) : g.derived A ≤ ρ A := by
  intro w hw
  have hform := formLanguage_le_of_derives hρ hw (mem_formLanguage_terminal ρ w)
  have hsingle : g.formLanguage ρ [.nonterminal A] = ρ A := mul_one _
  rwa [hsingle] at hform

/-- A word made of derived words is derived from the string of symbols. -/
theorem derives_of_mem_formLanguage {form : List (Symbol T g.NT)} {w : List T}
    (h : w ∈ g.formLanguage g.derived form) : g.Derives form (w.map .terminal) := by
  induction form generalizing w with
  | nil =>
    obtain rfl := (Language.mem_one w).1 h
    exact .refl _
  | cons x form ih =>
    cases x with
    | terminal a =>
      obtain ⟨u, rfl, v, hv, rfl⟩ := Language.mem_mul.1 h
      exact (ih hv).append_left [.terminal a]
    | nonterminal A =>
      obtain ⟨u, hu, v, hv, rfl⟩ := Language.mem_mul.1 h
      rw [List.map_append]
      have hu : g.Derives [.nonterminal A] (u.map .terminal) := hu
      exact (hu.append_right form).trans ((ih hv).append_left _)

theorem closed_derived (g : ContextFreeGrammar T) : g.Closed g.derived := by
  intro r hr w hw
  have hstep : g.Produces [.nonterminal r.input] r.output :=
    ⟨r, hr, ContextFreeRule.Rewrites.input_output⟩
  exact hstep.trans_derives (derives_of_mem_formLanguage hw)

end ContextFreeGrammar
