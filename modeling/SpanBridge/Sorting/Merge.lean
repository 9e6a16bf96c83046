import SpanBridge.Sorting.Search

/-!
# Merging two runs

`mergeRuns` merges two neighbouring runs; of items of which neither is less, those of the first run
come first. It starts from the end at which the shorter run lies and compares one item of each run
at a time. When one run has won often enough in a row, it gallops through both runs instead, and
goes on so as long as this pays. How often is enough is a threshold, which sinks while galloping
pays and rises when it ceases to.
-/

set_option autoImplicit false
set_option relaxedAutoImplicit false

namespace SpanBridge.Sorting

variable {α ε : Type}

/-! ### The state of a merge -/

/-- Two runs in the course of a merge: what has been taken from them, the latest first, and what
is left of each. The last item of the keeper comes after all movers. -/
structure Merging (α : Type) where
  taken : List α
  keeper : List α
  mover : List α

namespace Merging

def remaining (runs : Merging α) : Nat := runs.keeper.length + runs.mover.length

/-- Whether there is nothing left to compare. -/
def isDone : Merging α → Bool
  | ⟨_, _ :: _ :: _, _ :: _⟩ => false
  | _ => true

/-- The merged run when there is nothing left to compare. -/
def result (runs : Merging α) : List α := runs.taken.reverse ++ runs.mover ++ runs.keeper

def takeKeepers (count : Nat) (runs : Merging α) : Merging α :=
  ⟨(runs.keeper.take count).reverse ++ runs.taken, runs.keeper.drop count, runs.mover⟩

def takeMovers (count : Nat) (runs : Merging α) : Merging α :=
  ⟨(runs.mover.take count).reverse ++ runs.taken, runs.keeper, runs.mover.drop count⟩

/-- Does something, unless nothing is left to compare. -/
def unlessDone (action : Merging α → Merging α) (runs : Merging α) : Merging α :=
  if runs.isDone then runs else action runs

end Merging

/-- The way in which runs are merged. -/
structure Way (α ε : Type) where
  /-- The end at which the merge starts. -/
  origin : RunEnd
  /-- Whether an item of the mover is taken before one of the keeper. -/
  leads : α → α → Except ε Bool

namespace Way

/-! ### Galloping -/

/-- Takes the keepers that come before the next mover, and then that mover. -/
def gallopKeepers (way : Way α ε) (runs : Merging α) : Except ε (Merging α × Nat) :=
  match runs with
  | ⟨_, keeper :: next :: keepers, mover :: _⟩ => do
    let count ← gallop way.origin (way.leads mover) (keeper :: next :: keepers).toArray
    return ((runs.takeKeepers count).unlessDone (·.takeMovers 1), count)
  | _ => .ok (runs, 0)

/-- Takes the movers that come before the next keeper, and then that keeper. -/
def gallopMovers (way : Way α ε) (runs : Merging α) : Except ε (Merging α × Nat) :=
  match runs with
  | ⟨_, keeper :: _ :: _, mover :: movers⟩ => do
    let count ← gallop way.origin (fun item ↦ not <$> way.leads item keeper)
      (mover :: movers).toArray
    return ((runs.takeMovers count).unlessDone (·.takeKeepers 1), count)
  | _ => .ok (runs, 0)

/-- Gallops through both runs, first through the one further to the front. The number is the most
items that were taken at once. -/
def gallopBoth (way : Way α ε) (runs : Merging α) : Except ε (Merging α × Nat) := do
  match way.origin with
  | .front =>
    let (runs, keepers) ← way.gallopKeepers runs
    let (runs, movers) ← way.gallopMovers runs
    return (runs, max keepers movers)
  | .back =>
    let (runs, movers) ← way.gallopMovers runs
    let (runs, keepers) ← way.gallopKeepers runs
    return (runs, max keepers movers)

/-! ### The merge -/

/-- How a merge proceeds: item by item, with the number of times that each run has won in a row, or
by galloping. -/
inductive Pace where
  | steps (keeperWins moverWins : Nat)
  | leaps

/-- The pace after a run has won some times in a row. -/
def Pace.after (threshold wins : Nat) (pace : Pace) : Pace :=
  if threshold ≤ wins then .leaps else pace

/-- How many items have to be taken at once for galloping to pay. -/
def worthwhile : Nat := 7

/-- Merges what is left of two runs. Also yields the threshold for the next merge. Every round takes
at least one item, so `fuel` is never used up when it exceeds the number of items. -/
def merge (way : Way α ε) : (fuel threshold : Nat) → Pace → Merging α → Except ε (List α × Nat)
  | fuel + 1, threshold, .steps keeperWins moverWins,
      ⟨taken, keeper :: next :: keepers, mover :: movers⟩ => do
    if ← way.leads mover keeper then
      let pace := Pace.after threshold (moverWins + 1) (.steps 0 (moverWins + 1))
      way.merge fuel threshold pace ⟨mover :: taken, keeper :: next :: keepers, movers⟩
    else
      let pace := Pace.after threshold (keeperWins + 1) (.steps (keeperWins + 1) 0)
      way.merge fuel threshold pace ⟨keeper :: taken, next :: keepers, mover :: movers⟩
  | fuel + 1, threshold, .leaps, ⟨taken, keeper :: next :: keepers, mover :: movers⟩ => do
    let (runs, most) ← way.gallopBoth ⟨taken, keeper :: next :: keepers, mover :: movers⟩
    if runs.isDone then return (runs.result, threshold)
    else if worthwhile ≤ most then way.merge fuel (max 1 (threshold - 1)) .leaps runs
    else way.merge fuel (threshold + 1) (.steps 0 0) runs
  | _, threshold, _, runs => .ok (runs.result, threshold)

end Way

/-- Merges two runs from the front. The first item of the second run comes first. -/
def mergeFromFront (less : α → α → Except ε Bool) (threshold : Nat) (first second : List α) :
    Except ε (List α × Nat) :=
  let way : Way α ε := ⟨.front, less⟩
  way.merge (first.length + second.length) threshold (.steps 0 0)
    (Merging.takeMovers 1 ⟨[], first, second⟩)

/-- Merges two runs from the back. The last item of the first run comes last. -/
def mergeFromBack (less : α → α → Except ε Bool) (threshold : Nat) (first second : List α) :
    Except ε (List α × Nat) := do
  let way : Way α ε := ⟨.back, fun mover keeper ↦ less keeper mover⟩
  let (merged, threshold) ← way.merge (first.length + second.length) threshold (.steps 0 0)
    (Merging.takeMovers 1 ⟨[], second.reverse, first.reverse⟩)
  return (merged.reverse, threshold)

/-- Merges two neighbouring runs. What is in place already at either end is left alone. -/
def mergeRuns (less : α → α → Except ε Bool) (threshold : Nat) (first second : List α) :
    Except ε (List α × Nat) := do
  let inPlace ← match second with
    | [] => pure first.length
    | item :: _ => gallop .front (less item) first.toArray
  let ahead := first.take inPlace
  let first := first.drop inPlace
  match first.getLast? with
  | none => return (ahead ++ second, threshold)
  | some last =>
    let inPlace ← gallop .back (less · last) second.reverse.toArray
    let behind := second.drop (second.length - inPlace)
    let second := second.take (second.length - inPlace)
    if second.isEmpty then return (ahead ++ first ++ behind, threshold)
    let (merged, threshold) ←
      if first.length ≤ second.length then mergeFromFront less threshold first second
      else mergeFromBack less threshold first second
    return (ahead ++ merged ++ behind, threshold)

end SpanBridge.Sorting
