import SpanBridge.Sorting.Sort
import SpanBridge.Value.Basic

/-!
# Order of values

Some values have an order: numbers of all types by size, texts by code points, sequences by the
first items in which they differ. `Value.isLess` compares two values and names the types of a pair
that has no order; `Value.sorted` arranges a list by it.
-/

set_option autoImplicit false
set_option relaxedAutoImplicit false

namespace SpanBridge

/-- Two values without an order, by the words for their types. -/
structure Incomparable where
  first : String
  second : String
  deriving DecidableEq, Repr

def Incomparable.message (e : Incomparable) : String :=
  "'<' not supported between instances of '" ++ e.first ++ "' and '" ++ e.second ++ "'"

namespace Double

/-- Whether a number lies below an integer. -/
def ltInt (number : Double) (bound : Int) : Bool :=
  match number with
  | .nan => false
  | .infinite negative => negative
  | .finite negative exponent fraction =>
    let (numerator, denominator) := magnitude exponent fraction
    (if negative then -(numerator : Int) else numerator) < bound * denominator

/-- Whether a number lies above an integer. -/
def gtInt (number : Double) (bound : Int) : Bool :=
  match number with
  | .nan => false
  | .infinite negative => !negative
  | .finite negative exponent fraction =>
    let (numerator, denominator) := magnitude exponent fraction
    bound * denominator < (if negative then -(numerator : Int) else numerator)

/-- Whether a number lies below another. -/
def lt : Double → Double → Bool
  | .nan, _ | _, .nan => false
  | .infinite first, .infinite second => first && !second
  | .infinite negative, .finite _ _ _ => negative
  | .finite _ _ _, .infinite negative => !negative
  | .finite negative exponent fraction, .finite negative' exponent' fraction' =>
    let (numerator, denominator) := magnitude exponent fraction
    let (numerator', denominator') := magnitude exponent' fraction'
    (if negative then -(numerator : Int) else numerator) * denominator'
      < (if negative' then -(numerator' : Int) else numerator') * denominator

end Double

namespace Value

/-! ### Equality of values that are compared -/

mutual

/-- Whether two values of one document are equal, numbers by size and maps without regard to the
order of entries. -/
def isEqual : Value → Value → Bool
  | .list first, .list second => areEqual first second
  | .tuple first, .tuple second => areEqual first second
  | .map first, .map second => first.length = second.length && entriesIn first second
  | first, second => decide (Alike first second)

/-- Whether two sequences are equal item by item. -/
def areEqual : List Value → List Value → Bool
  | [], [] => true
  | first :: firsts, second :: seconds => isEqual first second && areEqual firsts seconds
  | _, _ => false

/-- Whether every entry has an equal one in a map. -/
def entriesIn : List (Value × Value) → List (Value × Value) → Bool
  | [], _ => true
  | (key, value) :: entries, others =>
    (match others.find? fun other ↦ Alike key other.1 with
      | some other => isEqual value other.2
      | none => false) && entriesIn entries others

end

/-! ### Comparison -/

/-- An integer or a truth value as an integer. -/
def integral? : Value → Option Int
  | .int number => some number
  | .bool truth => some (if truth then 1 else 0)
  | _ => none

/-- Compares two values other than sequences. -/
def isLessScalar (first second : Value) : Except Incomparable Bool :=
  match integral? first, integral? second, first, second with
  | some a, some b, _, _ => .ok (a < b)
  | some a, none, _, .double b => .ok (b.gtInt a)
  | none, some b, .double a, _ => .ok (a.ltInt b)
  | none, none, .double a, .double b => .ok (a.lt b)
  | none, none, .str a, .str b => .ok (a < b)
  | _, _, _, _ => .error ⟨first.typeName, second.typeName⟩

mutual

/-- Whether a value comes before another. -/
def isLess : Value → Value → Except Incomparable Bool
  | .list first, .list second => areLess first second
  | .tuple first, .tuple second => areLess first second
  | first, second => isLessScalar first second

/-- Whether a sequence comes before another: by the first items that differ, else by length. -/
def areLess : List Value → List Value → Except Incomparable Bool
  | [], [] => .ok false
  | [], _ :: _ => .ok true
  | _ :: _, [] => .ok false
  | first :: firsts, second :: seconds =>
    if isEqual first second then areLess firsts seconds else isLess first second

end

/-- The values in order, those of which neither is less as they came. -/
def sorted (values : List Value) : Except Incomparable (List Value) := Sorting.sort isLess values

end Value
end SpanBridge
