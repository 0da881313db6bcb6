import BranchLR.Event
import BranchLR.Search.Checkpoints

/-!
# One step of the search

A search follows one branch at a time. Each step tries the selected action of the top entry. If it
applies, the search moves on, and a snapshot with other candidates left is kept as a checkpoint. If
it does not, the search returns to the newest checkpoint that has a candidate left. Only as many
checkpoints are kept as the horizon allows, and the oldest give way. With a horizon of zero nothing
is kept, but an action that fails changes nothing, so the top entry itself can move on to its next
candidate.
-/

namespace BranchLR

variable [RegexLibrary]

/-- What a search is given: the grammar that names the tokens, the table, the input, and how many
checkpoints are kept. -/
structure Problem where
  grammar : Grammar
  table : Table
  input : TokenStream
  horizon : Nat

/-- A search on its way. -/
structure Run where
  current : Snapshot
  saved : Checkpoints
  /-- The number of steps taken. -/
  steps : Nat
  /-- The furthest place at which any branch has looked. -/
  furthest : Nat
  deriving DecidableEq

/-- A search after some of its steps. -/
inductive Progress where
  | running (r : Run)
  | ended (o : Outcome)

/-- What trying the selected action comes to. -/
inductive Attempt where
  | accepted
  | moved (event : Event) (next : Snapshot)
  | stuck (event : Option Event)

/-- Whether a flat rule stands for a symbol. A token-item stands for tokens, by their group if it is
imported and by their text otherwise; any other item stands for its own reductions. -/
def Rule.recognises (g : Grammar) : Rule → Symbol → Bool
  | .item name, .reduced reduced => name == reduced
  | .item name, .terminal token =>
    match g.tokenItem? name with
    | some found => if found.isImported then token.group == name else found.matchesText token.text
    | none => false
  | .literal text, .terminal token => text == token.text
  | .pattern p, .terminal token => p.matchesText token.text
  | .endOfInput, .endOfInput => true
  | _, _ => false

/-- Whether a rule stands for a symbol, which only flat rules can be asked. -/
def Rule.check (g : Grammar) (rule : Rule) (symbol : Symbol) : Except ParseFailure Bool :=
  if rule.isFlat then .ok (rule.recognises g symbol) else .error (.unexpandedGuard rule)

/-- The candidate lists of the guards that stand for a symbol. -/
def Row.groups (g : Grammar) (symbol : Symbol) :
    List (Rule × List Action) → Except ParseFailure (List (List Action))
  | [] => .ok []
  | (guard, actions) :: rest => do
    let here ← guard.check g symbol
    let groups ← Row.groups g symbol rest
    .ok (if here then actions :: groups else groups)

/-- The candidates once a symbol is pushed: those of every guard that stands for it, in order. A
guard whose candidates repeat those of an earlier one adds nothing. -/
def Row.candidates (g : Grammar) (row : Row) (symbol : Symbol) :
    Except ParseFailure (List Action) := do
  let groups ← Row.groups g symbol row.entries
  .ok groups.eraseDups.flatten

/-- Whether the rules, the last first, stand for the entries from the top down. -/
def covers (g : Grammar) : List Rule → List Entry → Except ParseFailure Bool
  | [], _ => .ok true
  | _ :: _, [] => .ok true
  | rule :: rules, entry :: entries => do
    let here ← rule.check g entry.symbol
    if here then covers g rules entries else .ok false

namespace Problem

/-- Whether a snapshot is a complete parse: the bottom and the accepted item alone are on the stack,
and no token is left. -/
def accepts (p : Problem) (s : Snapshot) : Bool :=
  match s.below with
  | [_] => p.input.remaining s.top.place == 0 && s.top.symbol == .reduced p.table.acceptItem
  | _ => false

/-- Tries to push the next token, or the end of the input behind the last, from a row. -/
def shift (p : Problem) (s : Snapshot) (row : Nat) : Except ParseFailure Attempt :=
  match p.table.row? row with
  | none => .error (.missingRow row)
  | some entries => do
    let (symbol, node, place) := match p.input.ahead s.top.place with
      | some token => (Symbol.terminal token, Node.leaf token.text, s.top.place + 1)
      | none => (Symbol.endOfInput, Node.endOfInput, s.top.place)
    let actions ← entries.candidates p.grammar symbol
    if actions.isEmpty then .ok (.stuck (some (.noShift row symbol)))
    else
      .ok (.moved (.shift row symbol actions.length)
        ⟨⟨symbol, [], actions, place⟩, s.stack, s.forest.push node⟩)

/-- Tries to replace the symbols of a production by its item. The candidates come from the row of
the entry that is then on top. -/
def reduce (p : Problem) (s : Snapshot) (production : Production) : Except ParseFailure Attempt :=
  let n := production.rules.length
  match s.stack.drop n with
  | [] => .ok (.stuck (some (.noReduce production)))
  | base :: below => do
    let fits ← covers p.grammar production.rules.reverse s.stack
    if !fits then .ok (.stuck (some (.noReduce production)))
    else
      match base.row? with
      | none => .ok (.stuck (some (.noRow production)))
      | some row =>
        match p.table.row? row with
        | none => .error (.missingRow row)
        | some entries => do
          let symbol := Symbol.reduced production.item
          let actions ← entries.candidates p.grammar symbol
          if actions.isEmpty then .ok (.stuck (some (.noGoto production row)))
          else
            match s.forest.reduce? production.item n with
            | none =>
              .error (.shortForest production.item n s.forest.newestFirst.length)
            | some forest =>
              .ok (.moved (.reduce production row actions.length)
                ⟨⟨symbol, [], actions, s.top.place⟩, base :: below, forest⟩)

/-- Tries the selected action. Without one, and when accepting is selected, only a complete parse
will do. -/
def attempt (p : Problem) (s : Snapshot) : Except ParseFailure Attempt :=
  match s.top.selected with
  | none => .ok (if p.accepts s then .accepted else .stuck none)
  | some .accept => .ok (if p.accepts s then .accepted else .stuck none)
  | some (.shift row) => p.shift s row
  | some (.reduce production) => p.reduce s production

/-- The furthest place once the selected action has been tried. Reductions look at no token. -/
def lookedAt (s : Snapshot) (furthest : Nat) : Nat :=
  match s.top.selected with
  | some (.reduce _) => furthest
  | _ => max furthest s.top.place

/-- What adding a checkpoint reports: with a horizon of zero none is kept, so none gives way. -/
def recordEvents (p : Problem) (saved : Checkpoints) : List Event :=
  if p.horizon ≠ 0 && saved.isFull p.horizon then [.checkpointEvicted p.horizon] else []

/-- The failure of a search in which no branch is left. -/
def rejection (p : Problem) (furthest : Nat) : ParseFailure :=
  match p.input.ahead furthest with
  | some token => .rejected token.text token.position
  | none => .unexpectedEnd p.input.lastPosition

/-- Returns to the newest candidate that has not been tried, if there is one. -/
def resume (p : Problem) (r : Run) : List Event × Progress :=
  match (if p.horizon = 0 then r.current.advance? else none) with
  | some next => ([.nextCandidate next.top.selected], .running { r with current := next })
  | none =>
    match r.saved.retry with
    | some (next, saved) =>
      ([.backtrack saved.size next.top.selected],
        .running { r with current := next, saved })
    | none =>
      let failure := p.rejection r.furthest
      ([.rejected r.steps failure], .ended (.error failure))

/-- Takes one step. -/
def step (p : Problem) (r : Run) : List Event × Progress :=
  match p.attempt r.current with
  | .error failure => ([], .ended (.error failure))
  | .ok .accepted =>
    ([.accepted (r.steps + 1) p.input.size], .ended (.ok r.current.forest))
  | .ok (.moved event next) =>
    let furthest := lookedAt r.current r.furthest
    if next.top.isChoice then
      (event :: p.recordEvents r.saved,
        .running ⟨next, r.saved.record p.horizon next, r.steps + 1, furthest⟩)
    else ([event], .running ⟨next, r.saved, r.steps + 1, furthest⟩)
  | .ok (.stuck event) =>
    let furthest := lookedAt r.current r.furthest
    let (events, progress) := p.resume { r with steps := r.steps + 1, furthest }
    (event.toList ++ events, progress)

end Problem

end BranchLR
