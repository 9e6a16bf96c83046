import SpanBridge.Number.Double

/-!
# Values of unchecked type

Instrumentation hands over values whose type nobody has checked: an attribute may hold a list of
lists, a scope may be named by a number. `Value` holds all of them. `Value.typeName` is the word
that messages use for the type, `Value.isTruthy` tells an empty or zero value from the rest, and
`Value.Same` is the equality under which values serve as keys: numbers are the same when they are
numerically equal, whatever their types, and what is not a number is the same as nothing.
-/

set_option autoImplicit false
set_option relaxedAutoImplicit false

namespace SpanBridge

/-- A value of any type that instrumentation may hand over. -/
inductive Value where
  | null
  | bool (truth : Bool)
  | int (number : Int)
  | double (number : Double)
  | str (text : String)
  | bytes (content : List UInt8)
  | list (items : List Value)
  | tuple (items : List Value)
  | map (entries : List (Value × Value))
  deriving Inhabited, Repr

namespace Value

/-! ### Equality -/

mutual

def decEq : (first second : Value) → Decidable (first = second)
  | .null, .null => isTrue rfl
  | .bool a, .bool b => decidable_of_iff (a = b) (by simp)
  | .int a, .int b => decidable_of_iff (a = b) (by simp)
  | .double a, .double b => decidable_of_iff (a = b) (by simp)
  | .str a, .str b => decidable_of_iff (a = b) (by simp)
  | .bytes a, .bytes b => decidable_of_iff (a = b) (by simp)
  | .list a, .list b => @decidable_of_iff _ (a = b) (by simp) (decEqItems a b)
  | .tuple a, .tuple b => @decidable_of_iff _ (a = b) (by simp) (decEqItems a b)
  | .map a, .map b => @decidable_of_iff _ (a = b) (by simp) (decEqEntries a b)
  | .null, .bool _ | .null, .int _ | .null, .double _ | .null, .str _ | .null, .bytes _
  | .null, .list _ | .null, .tuple _ | .null, .map _
  | .bool _, .null | .bool _, .int _ | .bool _, .double _ | .bool _, .str _ | .bool _, .bytes _
  | .bool _, .list _ | .bool _, .tuple _ | .bool _, .map _
  | .int _, .null | .int _, .bool _ | .int _, .double _ | .int _, .str _ | .int _, .bytes _
  | .int _, .list _ | .int _, .tuple _ | .int _, .map _
  | .double _, .null | .double _, .bool _ | .double _, .int _ | .double _, .str _
  | .double _, .bytes _ | .double _, .list _ | .double _, .tuple _ | .double _, .map _
  | .str _, .null | .str _, .bool _ | .str _, .int _ | .str _, .double _ | .str _, .bytes _
  | .str _, .list _ | .str _, .tuple _ | .str _, .map _
  | .bytes _, .null | .bytes _, .bool _ | .bytes _, .int _ | .bytes _, .double _
  | .bytes _, .str _ | .bytes _, .list _ | .bytes _, .tuple _ | .bytes _, .map _
  | .list _, .null | .list _, .bool _ | .list _, .int _ | .list _, .double _ | .list _, .str _
  | .list _, .bytes _ | .list _, .tuple _ | .list _, .map _
  | .tuple _, .null | .tuple _, .bool _ | .tuple _, .int _ | .tuple _, .double _
  | .tuple _, .str _ | .tuple _, .bytes _ | .tuple _, .list _ | .tuple _, .map _
  | .map _, .null | .map _, .bool _ | .map _, .int _ | .map _, .double _ | .map _, .str _
  | .map _, .bytes _ | .map _, .list _ | .map _, .tuple _ => isFalse (by simp)

/-- Decides equality of sequences of values. -/
def decEqItems : (first second : List Value) → Decidable (first = second)
  | [], [] => isTrue rfl
  | [], _ :: _ | _ :: _, [] => isFalse (by simp)
  | a :: as, b :: bs =>
    match decEq a b, decEqItems as bs with
    | isTrue ha, isTrue has => isTrue (by rw [ha, has])
    | isFalse ha, _ => isFalse fun h ↦ ha (List.cons.inj h).1
    | _, isFalse has => isFalse fun h ↦ has (List.cons.inj h).2

/-- Decides equality of sequences of entries. -/
def decEqEntries : (first second : List (Value × Value)) → Decidable (first = second)
  | [], [] => isTrue rfl
  | [], _ :: _ | _ :: _, [] => isFalse (by simp)
  | (a, x) :: as, (b, y) :: bs =>
    match decEq a b, decEq x y, decEqEntries as bs with
    | isTrue ha, isTrue hx, isTrue has => isTrue (by rw [ha, hx, has])
    | isFalse ha, _, _ => isFalse fun h ↦ ha (Prod.mk.inj (List.cons.inj h).1).1
    | _, isFalse hx, _ => isFalse fun h ↦ hx (Prod.mk.inj (List.cons.inj h).1).2
    | _, _, isFalse has => isFalse fun h ↦ has (List.cons.inj h).2

end

instance : DecidableEq Value := decEq

/-! ### Types and truth -/

/-- The word for the type of a value. -/
def typeName : Value → String
  | .null => "NoneType"
  | .bool _ => "bool"
  | .int _ => "int"
  | .double _ => "float"
  | .str _ => "str"
  | .bytes _ => "bytes"
  | .list _ => "list"
  | .tuple _ => "tuple"
  | .map _ => "dict"

/-- Whether a value counts as present: it is not null, false, zero or empty. -/
def isTruthy : Value → Bool
  | .null => false
  | .bool truth => truth
  | .int number => number ≠ 0
  | .double number => !number.isZero
  | .str text => text ≠ ""
  | .bytes content => !content.isEmpty
  | .list items => !items.isEmpty
  | .tuple items => !items.isEmpty
  | .map entries => !entries.isEmpty

/-- A value, unless it is absent in the sense of `isTruthy`. -/
def orNull (value : Value) : Value := if value.isTruthy then value else .null

/-! ### Sameness of keys -/

mutual

/-- The form of a value that decides its sameness as a key: a truth value and a whole number are
integers. -/
def keyForm : Value → Value
  | .bool truth => .int (if truth then 1 else 0)
  | .double number => (number.integer?.map Value.int).getD (.double number)
  | .tuple items => .tuple (keyForms items)
  | value => value

/-- The forms of a sequence of keys. -/
def keyForms : List Value → List Value
  | [] => []
  | item :: items => keyForm item :: keyForms items

end

mutual

/-- Whether a key is no number, or a sequence that holds such a key. -/
def holdsNan : Value → Bool
  | .double number => number = .nan
  | .tuple items => anyHoldsNan items
  | _ => false

/-- Whether one of a sequence of keys is no number or holds such a key. -/
def anyHoldsNan : List Value → Bool
  | [] => false
  | item :: items => holdsNan item || anyHoldsNan items

end

/-- Two keys of one document are alike when they are numerically or otherwise equal. Not-a-number is
alike to itself, as a document has one spelling for it. -/
def Alike (first second : Value) : Prop := keyForm first = keyForm second

instance : DecidableRel Alike := fun first second ↦
  inferInstanceAs (Decidable (keyForm first = keyForm second))

/-- Two keys are the same when they are numerically or otherwise equal. Not-a-number is the same as
nothing, not even as itself. -/
def Same (first second : Value) : Prop := Alike first second ∧ (keyForm first).holdsNan = false

instance : DecidableRel Same := fun first second ↦
  inferInstanceAs (Decidable (Alike first second ∧ (keyForm first).holdsNan = false))

theorem Alike.refl (value : Value) : Alike value value := rfl

theorem Alike.symm {first second : Value} (h : Alike first second) : Alike second first :=
  Eq.symm h

theorem Alike.trans {first second third : Value} (h : Alike first second)
    (k : Alike second third) : Alike first third := Eq.trans h k

theorem Same.alike {first second : Value} (h : Same first second) : Alike first second := h.1

theorem Same.symm {first second : Value} (h : Same first second) : Same second first :=
  ⟨h.alike.symm, (congrArg holdsNan h.alike) ▸ h.2⟩

theorem Same.trans {first second third : Value} (h : Same first second) (k : Same second third) :
    Same first third := ⟨h.alike.trans k.alike, h.2⟩

end Value
end SpanBridge
