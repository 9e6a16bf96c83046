import SpanBridge.Sorting.Merge

/-!
# Stable sorting

`Sorting.sort` arranges items by an order that may refuse to compare two of them. It divides the
items into runs that are in order already, lengthens short runs by inserting the items that follow,
and merges neighbouring runs along a balanced tree. With an order that is one in name only, such as
that of numbers which are not numbers, the outcome depends on the pairs compared; so which these
are is fixed here.
-/

set_option autoImplicit false
set_option relaxedAutoImplicit false

namespace SpanBridge.Sorting

variable {α ε : Type}

/-! ### Runs -/

/-- How many items follow an item so that each joins the one before it. -/
def chainLength (joins : α → α → Except ε Bool) : α → List α → Except ε Nat
  | _, [] => .ok 0
  | item, next :: rest => do
    if ← joins item next then return (← chainLength joins next rest) + 1 else return 0

/-- How many items follow the first in a run, and whether each of them is less than the one before
it. Otherwise none is. -/
def findRun (less : α → α → Except ε Bool) (first : α) : List α → Except ε (Nat × Bool)
  | [] => .ok (0, false)
  | second :: rest => do
    if ← less second first then
      return ((← chainLength (fun item next ↦ less next item) second rest) + 1, true)
    else
      return ((← chainLength (fun item next ↦ not <$> less next item) second rest) + 1, false)

/-- Inserts an item into a sorted run after those that it is not less than. -/
def insertItem (less : α → α → Except ε Bool) (run : List α) (item : α) : Except ε (List α) := do
  let items := run.toArray
  let place ← bisect .front (less item) items 0 items.size (Nat.le_refl _)
  return run.take place ++ item :: run.drop place

/-- The length that a run has at least. Dividing the number of items by it gives a power of two or a
little less. -/
def runLength (items : Nat) (odd : Nat) : Nat :=
  if items < 64 then items + odd
  else runLength (items / 2) (if items % 2 = 1 then 1 else odd)

/-! ### The tree of merges -/

/-- A sorted run with its place among all items. Its depth is that of the merge with the run after
it, in a balanced tree of merges. -/
structure Run (α : Type) where
  start : Nat
  items : List α
  depth : Nat

/-- The depth at which two neighbouring runs are merged: the first binary digit in which their
midpoints differ, as fractions of all items. -/
def depthBetween (total start first second : Nat) : Nat :=
  let middle := 2 * start + first
  let middle' := middle + first + second
  ((List.range (total.log2 + 2)).find? fun digits ↦
    middle <<< digits / total ≠ middle' <<< digits / total).getD 0

/-- Merges the latest runs as long as their depth exceeds a given one. Runs are in reverse, the
latest first. -/
def mergeDeeper (less : α → α → Except ε Bool) (depth threshold : Nat) :
    List (Run α) → Except ε (List (Run α) × Nat)
  | latest :: previous :: earlier => do
    if depth < previous.depth then
      let (merged, threshold) ← mergeRuns less threshold previous.items latest.items
      mergeDeeper less depth threshold (⟨previous.start, merged, previous.depth⟩ :: earlier)
    else return (latest :: previous :: earlier, threshold)
  | runs => .ok (runs, threshold)
  termination_by runs => runs.length

/-- Adds a run of a length to be, after merging those before it that lie deeper. -/
def makeRoom (less : α → α → Except ε Bool) (total threshold length : Nat) :
    List (Run α) → Except ε (List (Run α) × Nat)
  | [] => .ok ([], threshold)
  | latest :: earlier => do
    let depth := depthBetween total latest.start latest.items.length length
    match ← mergeDeeper less depth threshold (latest :: earlier) with
    | (latest :: earlier, threshold) => return ({ latest with depth } :: earlier, threshold)
    | ([], threshold) => return ([], threshold)

/-- Divides items into runs, which are merged as they are found. -/
def collectRuns (less : α → α → Except ε Bool) (total shortest start threshold : Nat)
    (runs : List (Run α)) : List α → Except ε (List (Run α) × Nat)
  | [] => .ok (runs, threshold)
  | first :: rest => do
    let (followers, isDescending) ← findRun less first rest
    let found := first :: rest.take followers
    let found := if isDescending then found.reverse else found
    let missing := shortest - found.length
    let run ← ((rest.drop followers).take missing).foldlM (insertItem less) found
    let (runs, threshold) ← makeRoom less total threshold run.length runs
    collectRuns less total shortest (start + run.length) threshold (⟨start, run, 0⟩ :: runs)
      ((rest.drop followers).drop missing)
  termination_by items => items.length
  decreasing_by simp only [List.length_drop, List.length_cons]; omega

/-- Merges all runs that are left, from the latest on. Of three the shorter outer one is merged with
the middle one. -/
def mergeAll (less : α → α → Except ε Bool) (threshold : Nat) :
    List (Run α) → Except ε (List α)
  | [] => .ok []
  | [run] => .ok run.items
  | [latest, previous] => do
    return (← mergeRuns less threshold previous.items latest.items).1
  | latest :: previous :: earlier :: others => do
    if earlier.items.length < latest.items.length then
      let (merged, threshold) ← mergeRuns less threshold earlier.items previous.items
      mergeAll less threshold (latest :: ⟨earlier.start, merged, earlier.depth⟩ :: others)
    else
      let (merged, threshold) ← mergeRuns less threshold previous.items latest.items
      mergeAll less threshold (⟨previous.start, merged, previous.depth⟩ :: earlier :: others)
  termination_by runs => runs.length

/-- The items in order, those of which neither is less as they came. -/
def sort (less : α → α → Except ε Bool) (items : List α) : Except ε (List α) :=
  if items.length < 2 then .ok items
  else do
    let shortest := runLength items.length 0
    let (runs, threshold) ← collectRuns less items.length shortest 0 Way.worthwhile [] items
    mergeAll less threshold runs

end SpanBridge.Sorting
