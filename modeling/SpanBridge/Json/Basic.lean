import SpanBridge.Value.Basic

/-!
# JSON documents

A document as it is read and written: numbers written without point and exponent are integers of any
size, the others are of double precision, and the members of an object keep their order.
`Json.toValue` forgets that a value came from a document.
-/

set_option autoImplicit false
set_option relaxedAutoImplicit false

namespace SpanBridge

/-- A JSON document. -/
inductive Json where
  | null
  | bool (truth : Bool)
  | int (number : Int)
  | double (number : Double)
  | str (text : String)
  | arr (items : List Json)
  | obj (members : List (String × Json))
  deriving Inhabited, Repr

namespace Json

mutual

def toValue : Json → Value
  | .null => .null
  | .bool truth => .bool truth
  | .int number => .int number
  | .double number => .double number
  | .str text => .str text
  | .arr items => .list (itemValues items)
  | .obj members => .map (memberValues members)

def itemValues : List Json → List Value
  | [] => []
  | item :: items => toValue item :: itemValues items

/-- The members of an object as entries. -/
def memberValues : List (String × Json) → List (Value × Value)
  | [] => []
  | (name, value) :: members => (.str name, toValue value) :: memberValues members

end

/-- The word for the type of a document. -/
def typeName (document : Json) : String := document.toValue.typeName

/-- Whether a document counts as present. -/
def isTruthy (document : Json) : Bool := document.toValue.isTruthy

def IsString (document : Json) : Prop := ∃ text, document = .str text

end Json
end SpanBridge
