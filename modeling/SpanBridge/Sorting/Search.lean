/-!
# Searching a run

A search finds how many items come before the first one at which a test stops. `bisect` halves a
range of positions; `gallop` first looks at ever further positions, which is faster when the answer
is near. Which items are tested matters where a test may fail or where the items are not in order,
so it is part of what these functions say.
-/

set_option autoImplicit false
set_option relaxedAutoImplicit false

namespace SpanBridge.Sorting

/-- The end of a run from which positions are counted. -/
inductive RunEnd where
  | front
  | back
  deriving DecidableEq, Repr

/-- The middle of the positions from `low` up to `high`. Of two middles it is the one further to the
back of the run. -/
def RunEnd.middle (origin : RunEnd) (low high : Nat) : Nat :=
  match origin with
  | .front => low + (high - low) / 2
  | .back => high - 1 - (high - low) / 2

theorem RunEnd.le_middle (origin : RunEnd) {low high : Nat} (h : low < high) :
    low ≤ origin.middle low high := by
  cases origin <;> simp only [middle] <;> omega

theorem RunEnd.middle_lt (origin : RunEnd) {low high : Nat} (h : low < high) :
    origin.middle low high < high := by
  cases origin <;> simp only [middle] <;> omega

variable {α ε : Type}

/-- The first position from `low` up to `high` at which the test stops, found by halving. -/
def bisect (origin : RunEnd) (stops : α → Except ε Bool) (items : Array α) (low high : Nat)
    (bound : high ≤ items.size) : Except ε Nat :=
  if inside : low < high then
    let middle := origin.middle low high
    have below : middle < high := origin.middle_lt inside
    have above : low ≤ middle := origin.le_middle inside
    do
      if ← stops items[middle] then bisect origin stops items low middle (by omega)
      else bisect origin stops items (middle + 1) high bound
  else .ok low
  termination_by high - low

/-- Looks at ever further positions until the test stops, and halves the range in which it came to
do so. -/
def stride (origin : RunEnd) (stops : α → Except ε Bool) (items : Array α) (last next : Nat) :
    Except ε Nat :=
  if inside : next < items.size then do
    if ← stops items[next] then bisect origin stops items (last + 1) next (Nat.le_of_lt inside)
    else stride origin stops items next (2 * next + 1)
  else bisect origin stops items (last + 1) items.size (Nat.le_refl _)
  termination_by items.size - next

/-- How many items come before the first at which the test stops. -/
def gallop (origin : RunEnd) (stops : α → Except ε Bool) (items : Array α) : Except ε Nat :=
  if inside : 0 < items.size then do
    if ← stops items[0] then return 0 else stride origin stops items 0 1
  else .ok 0

end SpanBridge.Sorting
