import SpanBridge.Json.Basic
import SpanBridge.Number.Decimal
import SpanBridge.Number.Shortest

/-!
# Values as JSON

`Json.ofValue` turns a value into a document: tuples become arrays, and keys become names by their
text. Bytes and keys without a text are refused, and so is an integer with too many digits; the
first of them in the order of writing is reported.
-/

set_option autoImplicit false
set_option relaxedAutoImplicit false

namespace SpanBridge.Json

/-- Why a value has no document. -/
inductive EncodeError where
  | keyType (typeName : String)
  | unsupported (typeName : String)
  | tooManyDigits (error : Number.DigitLimitError)
  deriving DecidableEq, Repr

def EncodeError.message : EncodeError → String
  | .keyType typeName => "keys must be str, int, float, bool or None, not " ++ typeName
  | .unsupported typeName => "Object of type " ++ typeName ++ " is not JSON serializable"
  | .tooManyDigits error => error.message

/-- An integer that can be written. -/
def ofInteger (number : Int) : Except EncodeError Json := do
  let _ ← (Number.writeInteger number).mapError EncodeError.tooManyDigits
  return .int number

/-- The name that stands for a key. -/
def nameOfKey : Value → Except EncodeError String
  | .str text => .ok text
  | .double number => .ok (number.text DoubleFormat.plain)
  | .bool truth => .ok (if truth then "true" else "false")
  | .null => .ok "null"
  | .int number => (Number.writeInteger number).mapError EncodeError.tooManyDigits
  | key => .error (.keyType key.typeName)

mutual

def ofValue : Value → Except EncodeError Json
  | .null => .ok .null
  | .bool truth => .ok (.bool truth)
  | .int number => ofInteger number
  | .double number => .ok (.double number)
  | .str text => .ok (.str text)
  | .bytes content => .error (.unsupported (Value.bytes content).typeName)
  | .list items => return .arr (← ofItems items)
  | .tuple items => return .arr (← ofItems items)
  | .map entries => return .obj (← ofEntries entries)

/-- The documents of a sequence of values. -/
def ofItems : List Value → Except EncodeError (List Json)
  | [] => .ok []
  | item :: items => return (← ofValue item) :: (← ofItems items)

/-- The members that stand for entries. -/
def ofEntries : List (Value × Value) → Except EncodeError (List (String × Json))
  | [] => .ok []
  | (key, value) :: entries => do
    let name ← nameOfKey key
    return (name, ← ofValue value) :: (← ofEntries entries)

end

end SpanBridge.Json
