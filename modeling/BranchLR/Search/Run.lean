import BranchLR.Search.Step

/-!
# Whole searches

A search is started from the table's initial candidates and taken step by step. With a step limit it
always ends: in a tree, in a failure, or because the limit is reached.
-/

namespace BranchLR

variable [RegexLibrary]

/-- The number of steps after which a search gives up, unless something else is asked for. -/
def defaultStepLimit : Nat := 1000000

/-- How a search is bounded. -/
structure Config where
  /-- The number of checkpoints that are kept. -/
  horizon : Nat := 100
  /-- The number of steps that may be taken; without it a search goes on until it ends by itself. -/
  stepLimit : Option Nat := some defaultStepLimit
  deriving DecidableEq

namespace Problem

/-- The search before its first step. -/
def start (p : Problem) : Run :=
  let bottom : Snapshot := ⟨⟨.bottom, [], p.table.initial, 0⟩, [], {}⟩
  ⟨bottom, if bottom.top.isChoice then Checkpoints.empty.record p.horizon bottom else .empty, 0, 0⟩

/-- The search after at most the given number of steps. -/
def advance (p : Problem) : Nat → Run → Progress
  | 0, r => .running r
  | n + 1, r =>
    match (p.step r).2 with
    | .running r => p.advance n r
    | .ended o => .ended o

/-- What at most the given number of steps report, behind the events given. -/
def eventsFrom (p : Problem) : Nat → Run → Array Event → Array Event
  | 0, _, log => log
  | n + 1, r, log =>
    let (events, progress) := p.step r
    match progress with
    | .running r => p.eventsFrom n r (log.appendList events)
    | .ended _ => log.appendList events

/-- The outcome of the search under a step limit. -/
def solve (p : Problem) (limit : Nat) : Outcome :=
  match p.advance limit p.start with
  | .ended o => o
  | .running _ => .error (.stepLimit limit)

/-- What the search under a step limit reports. -/
def trace (p : Problem) (limit : Nat) : List Event :=
  let log := p.eventsFrom limit p.start #[]
  match p.advance limit p.start with
  | .ended _ => log.toList
  | .running _ => (log.push (.stepLimitReached limit)).toList

end Problem

end BranchLR
