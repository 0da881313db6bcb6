import BranchLR.Search.Run

/-!
# What a step of the search can do

Each step of a search either moves a snapshot on, returns to an untried candidate, or ends the
search. This file says so once, as inductive relations that hold exactly when the executable
functions give the corresponding result. Everything about whole searches is derived from them.
-/

namespace BranchLR

/-- The symbol that a shift pushes at a place, with its leaf and the place behind it. -/
inductive TokenStream.Upcoming (input : TokenStream) (place : Nat) : Symbol → Node → Nat → Prop
  | token {t : Token} (hahead : input.ahead place = some t) :
      Upcoming input place (.terminal t) (.leaf t.text) (place + 1)
  | atEnd (hahead : input.ahead place = none) :
      Upcoming input place .endOfInput .endOfInput place

/-- Every place has an upcoming symbol: the token ahead, or the end behind the last. -/
theorem TokenStream.exists_upcoming (input : TokenStream) (place : Nat) :
    ∃ symbol node after, input.Upcoming place symbol node after := by
  cases hahead : input.ahead place with
  | none => exact ⟨_, _, _, .atEnd hahead⟩
  | some t => exact ⟨_, _, _, .token hahead⟩

variable [RegexLibrary]

namespace Checkpoints

/-- Retrying drops the checkpoints without a candidate left and moves the first other one on. -/
theorem retryFrom_eq_some {saved : List Snapshot} {size : Nat} {h : size = saved.length}
    {next : Snapshot} {c : Checkpoints} (hretry : retryFrom saved size h = some (next, c)) :
    ∃ dropped s rest, saved = dropped ++ s :: rest ∧ (∀ d ∈ dropped, d.advance? = none) ∧
      s.advance? = some next ∧ c.newestFirst = next :: rest := by
  induction saved generalizing size with
  | nil => simp [retryFrom] at hretry
  | cons s rest ih =>
    unfold retryFrom at hretry
    split at hretry
    next s' hs =>
      simp only [Option.some.injEq, Prod.mk.injEq] at hretry
      obtain ⟨rfl, rfl⟩ := hretry
      exact ⟨[], s, rest, rfl, by simp, hs, rfl⟩
    next hs =>
      obtain ⟨dropped, t, below, rfl, hdropped, ht, hc⟩ := ih hretry
      refine ⟨s :: dropped, t, below, rfl, ?_, ht, hc⟩
      intro d hd
      rcases List.mem_cons.1 hd with rfl | hd
      · exact hs
      · exact hdropped d hd

end Checkpoints

namespace Problem

variable {p : Problem} {r r' : Run} {s next : Snapshot} {o : Outcome}

/-- An action that applies: what pushing the next symbol from a row, or replacing the symbols of a
production by its item, makes of a snapshot. -/
inductive Moves (p : Problem) (s : Snapshot) : Snapshot → Prop
  | shift {row place : Nat} {guards : Row} {symbol : Symbol} {node : Node} {actions : List Action}
      (hselected : s.top.selected = some (.shift row))
      (hrow : p.table.row? row = some guards)
      (hnext : p.input.Upcoming s.top.place symbol node place)
      (hactions : guards.candidates p.grammar symbol = .ok actions) (hne : actions ≠ []) :
      Moves p s ⟨⟨symbol, [], actions, place⟩, s.stack, s.forest.push node⟩
  | reduce {production : Production} {base : Entry} {below : List Entry} {row : Nat} {guards : Row}
      {actions : List Action} {forest : Forest}
      (hselected : s.top.selected = some (.reduce production))
      (hbase : s.stack.drop production.rules.length = base :: below)
      (hcovers : covers p.grammar production.rules.reverse s.stack = .ok true)
      (hbaseRow : base.row? = some row)
      (hrow : p.table.row? row = some guards)
      (hactions : guards.candidates p.grammar (.reduced production.item) = .ok actions)
      (hne : actions ≠ [])
      (hforest : s.forest.reduce? production.item production.rules.length = some forest) :
      Moves p s ⟨⟨.reduced production.item, [], actions, s.top.place⟩, base :: below, forest⟩

/-- A shift from a row depends on the candidates for the upcoming symbol alone. -/
theorem shift_eq {row place : Nat} {guards : Row} {symbol : Symbol} {node : Node}
    (hrow : p.table.row? row = some guards)
    (hnext : p.input.Upcoming s.top.place symbol node place) :
    p.shift s row = (guards.candidates p.grammar symbol).bind fun actions =>
      if actions.isEmpty then .ok (.stuck (some (.noShift row symbol)))
      else .ok (.moved (.shift row symbol actions.length)
        ⟨⟨symbol, [], actions, place⟩, s.stack, s.forest.push node⟩) := by
  unfold Problem.shift
  cases hnext with
  | token hahead => simp only [hrow, hahead]; rfl
  | atEnd hahead => simp only [hrow, hahead]; rfl

/-- An action that breaks a promise of the table: a row that does not exist, a guard or a rule that is
not flat, or a production longer than the forest. -/
inductive Breaks (p : Problem) (s : Snapshot) : ParseFailure → Prop
  | shiftRow {row : Nat} (hselected : s.top.selected = some (.shift row))
      (hrow : p.table.row? row = none) : Breaks p s (.missingRow row)
  | shiftGuard {row : Nat} {guards : Row} {symbol : Symbol} {e : ParseFailure}
      (hselected : s.top.selected = some (.shift row)) (hrow : p.table.row? row = some guards)
      (hactions : guards.candidates p.grammar symbol = .error e) : Breaks p s e
  | rule {production : Production} {e : ParseFailure}
      (hselected : s.top.selected = some (.reduce production))
      (hcovers : covers p.grammar production.rules.reverse s.stack = .error e) : Breaks p s e
  | reduceRow {production : Production} {base : Entry} {below : List Entry} {row : Nat}
      (hselected : s.top.selected = some (.reduce production))
      (hbase : s.stack.drop production.rules.length = base :: below)
      (hbaseRow : base.row? = some row) (hrow : p.table.row? row = none) :
      Breaks p s (.missingRow row)
  | reduceGuard {production : Production} {row : Nat} {guards : Row} {symbol : Symbol}
      {e : ParseFailure} (hselected : s.top.selected = some (.reduce production))
      (hrow : p.table.row? row = some guards)
      (hactions : guards.candidates p.grammar symbol = .error e) : Breaks p s e
  | roots {production : Production} {base : Entry} {below : List Entry} {e : ParseFailure}
      (hselected : s.top.selected = some (.reduce production))
      (hbase : s.stack.drop production.rules.length = base :: below)
      (hcovers : covers p.grammar production.rules.reverse s.stack = .ok true)
      (hforest : s.forest.reduce? production.item production.rules.length = none) : Breaks p s e

/-- What an attempt can come to, with the reason for it. -/
inductive Explained (p : Problem) (s : Snapshot) : Except ParseFailure Attempt → Prop
  | broken {e : ParseFailure} (hbreaks : p.Breaks s e) : Explained p s (.error e)
  | accepted (hselected : s.top.selected = none ∨ s.top.selected = some .accept)
      (haccepts : p.accepts s = true) : Explained p s (.ok .accepted)
  | moved {event : Event} {next : Snapshot} (hmoves : p.Moves s next) :
      Explained p s (.ok (.moved event next))
  | stuck {event : Option Event} : Explained p s (.ok (.stuck event))

/-- The results of a shift. -/
theorem shift_explained {row : Nat} (hselected : s.top.selected = some (.shift row)) :
    p.Explained s (p.shift s row) := by
  cases hrow : p.table.row? row with
  | none =>
    rw [show p.shift s row = .error (.missingRow row) by simp [Problem.shift, hrow]]
    exact .broken (.shiftRow hselected hrow)
  | some guards =>
    obtain ⟨symbol, node, place, hnext⟩ := p.input.exists_upcoming s.top.place
    rw [shift_eq hrow hnext]
    cases hactions : guards.candidates p.grammar symbol with
    | error e => exact .broken (.shiftGuard hselected hrow hactions)
    | ok actions =>
      simp only [Except.bind]
      split
      · exact .stuck
      next hne => exact .moved (.shift hselected hrow hnext hactions (by simpa using hne))

/-- The results of a reduction. -/
theorem reduce_explained {production : Production}
    (hselected : s.top.selected = some (.reduce production)) :
    p.Explained s (p.reduce s production) := by
  dsimp only [Problem.reduce, bind]
  split
  · exact .stuck
  next base below hbase =>
    cases hcovers : covers p.grammar production.rules.reverse s.stack with
    | error e => exact .broken (.rule hselected hcovers)
    | ok fits =>
      simp only [Except.bind]
      split
      · exact .stuck
      next hfits =>
        obtain rfl : fits = true := by simpa using hfits
        split
        · exact .stuck
        next row hbaseRow =>
          split
          next hrow => exact .broken (.reduceRow hselected hbase hbaseRow hrow)
          next guards hrow =>
            cases hactions : guards.candidates p.grammar (.reduced production.item) with
            | error e => exact .broken (.reduceGuard hselected hrow hactions)
            | ok actions =>
              dsimp only
              split
              · exact .stuck
              next hne =>
                split
                next hforest => exact .broken (.roots hselected hbase hcovers hforest)
                next forest hforest =>
                  exact .moved (.reduce hselected hbase hcovers hbaseRow hrow hactions
                    (by simpa using hne) hforest)

/-- Every attempt has one of the listed results. -/
theorem attempt_explained (p : Problem) (s : Snapshot) : p.Explained s (p.attempt s) := by
  unfold Problem.attempt
  split
  next hselected =>
    split
    next haccepts => exact .accepted (.inl hselected) haccepts
    next => exact .stuck
  next hselected =>
    split
    next haccepts => exact .accepted (.inr hselected) haccepts
    next => exact .stuck
  next row hselected => exact shift_explained hselected
  next production hselected => exact reduce_explained hselected

/-- An action that applies is carried out. -/
theorem Moves.attempt (h : p.Moves s next) :
    ∃ event, p.attempt s = .ok (.moved event next) := by
  cases h with
  | @shift row _ _ symbol _ actions hselected hrow hnext hactions hne =>
    have hempty := List.isEmpty_eq_false_iff.2 hne
    refine ⟨.shift row symbol actions.length, ?_⟩
    unfold Problem.attempt
    rw [hselected]
    dsimp only
    rw [shift_eq hrow hnext, hactions, Except.bind, hempty]
    rfl
  | @reduce production _ _ row _ actions _ hselected hbase hcovers hbaseRow hrow hactions hne
      hforest =>
    have hempty := List.isEmpty_eq_false_iff.2 hne
    refine ⟨.reduce production row actions.length, ?_⟩
    unfold Problem.attempt
    rw [hselected]
    dsimp only
    unfold Problem.reduce
    simp only [hbase, hcovers, hbaseRow, hrow, hactions, hempty, hforest, bind, Except.bind]
    rfl

/-- A snapshot moves on exactly when its selected action applies. -/
theorem attempt_moved_iff :
    (∃ event, p.attempt s = .ok (.moved event next)) ↔ p.Moves s next := by
  constructor
  · rintro ⟨event, h⟩
    have hexplained := p.attempt_explained s
    rw [h] at hexplained
    cases hexplained with
    | moved hmoves => exact hmoves
  · exact Moves.attempt

/-- A snapshot is accepted exactly when it is a complete parse and no other action is selected. -/
theorem attempt_accepted_iff : p.attempt s = .ok .accepted ↔
    (s.top.selected = none ∨ s.top.selected = some .accept) ∧ p.accepts s = true := by
  constructor
  · intro h
    have hexplained := p.attempt_explained s
    rw [h] at hexplained
    cases hexplained with
    | accepted hselected haccepts => exact ⟨hselected, haccepts⟩
  · rintro ⟨hselected | hselected, haccepts⟩
    · simp [Problem.attempt, hselected, haccepts]
    · simp [Problem.attempt, hselected, haccepts]

/-- A complete parse has one entry above the bottom, at the end of the input. -/
theorem accepts_iff : p.accepts s = true ↔
    ∃ base, s.below = [base] ∧ p.input.size ≤ s.top.place ∧
      s.top.symbol = .reduced p.table.acceptItem := by
  unfold Problem.accepts
  split
  next base hbelow =>
    simp only [TokenStream.remaining, Bool.and_eq_true, beq_iff_eq, hbelow, List.cons.injEq,
      and_true, exists_eq_left']
    rw [Nat.sub_eq_zero_iff_le]
  next hbelow =>
    simp only [Bool.false_eq_true, false_iff]
    rintro ⟨base, hbase, -⟩
    exact hbelow base hbase

end Problem

end BranchLR
