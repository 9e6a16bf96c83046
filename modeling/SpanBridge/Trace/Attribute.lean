import SpanBridge.Category
import SpanBridge.Number.Decimal
import SpanBridge.Number.Shortest
import SpanBridge.Value.Basic

/-!
# Attributes

An attribute is a text, a truth value, an integer or a double precision number, or a sequence of one
of these. `Attribute.ofValue` finds out which of them a value is, and `Attribute.text` is the one
canonical text of an attribute: that of a sequence is the texts of its items with commas between
them.
-/

set_option autoImplicit false
set_option relaxedAutoImplicit false

namespace SpanBridge

/-- An attribute that is no sequence. -/
inductive Scalar where
  | string (text : String)
  | boolean (truth : Bool)
  | long (number : Int)
  | double (number : Double)
  deriving DecidableEq, Repr

/-- An attribute of one of the eight kinds. -/
inductive Attribute where
  | string (text : String)
  | boolean (truth : Bool)
  | long (number : Int)
  | double (number : Double)
  | strings (items : List String)
  | booleans (items : List Bool)
  | longs (items : List Int)
  | doubles (items : List Double)
  deriving DecidableEq, Repr

/-- The kinds of attributes. -/
inductive AttributeKind where
  | string
  | boolean
  | long
  | double
  | stringArray
  | booleanArray
  | longArray
  | doubleArray
  deriving DecidableEq, Repr

def AttributeKind.name : AttributeKind → String
  | .string => "string"
  | .boolean => "boolean"
  | .long => "long"
  | .double => "double"
  | .stringArray => "string_array"
  | .booleanArray => "boolean_array"
  | .longArray => "long_array"
  | .doubleArray => "double_array"

/-- Whether attributes of a kind are sequences. -/
def AttributeKind.isArray : AttributeKind → Bool
  | .string | .boolean | .long | .double => false
  | .stringArray | .booleanArray | .longArray | .doubleArray => true

/-- Why a value is no attribute, or an attribute has no text. -/
inductive AttributeError where
  | unsupportedType (typeName : String)
  | mixedArray
  | tooManyDigits (error : Number.DigitLimitError)
  deriving DecidableEq, Repr

def AttributeError.message : AttributeError → String
  | .unsupportedType typeName => "Unsupported attribute value type: " ++ typeName
  | .mixedArray => "Attribute arrays must be homogeneous"
  | .tooManyDigits error => error.message

def AttributeError.category : AttributeError → Category
  | .unsupportedType _ | .mixedArray => .wrongType
  | .tooManyDigits _ => .invalid

namespace Scalar

/-- The attribute that a value is, sequences aside. -/
def ofValue : Value → Except AttributeError Scalar
  | .str text => .ok (.string text)
  | .bool truth => .ok (.boolean truth)
  | .int number => .ok (.long number)
  | .double number => .ok (.double number)
  | value => .error (.unsupportedType value.typeName)

def toAttribute : Scalar → Attribute
  | .string text => .string text
  | .boolean truth => .boolean truth
  | .long number => .long number
  | .double number => .double number

def string? : Scalar → Option String
  | .string text => some text
  | _ => none

def boolean? : Scalar → Option Bool
  | .boolean truth => some truth
  | _ => none

def long? : Scalar → Option Int
  | .long number => some number
  | _ => none

def double? : Scalar → Option Double
  | .double number => some number
  | _ => none

end Scalar

namespace Attribute

/-- A sequence of scalars of one kind. The empty sequence counts as one of texts. -/
def ofScalars (items : List Scalar) : Except AttributeError Attribute :=
  match items.mapM Scalar.string?, items.mapM Scalar.boolean?, items.mapM Scalar.long?,
      items.mapM Scalar.double? with
  | some texts, _, _, _ => .ok (.strings texts)
  | none, some truths, _, _ => .ok (.booleans truths)
  | none, none, some numbers, _ => .ok (.longs numbers)
  | none, none, none, some numbers => .ok (.doubles numbers)
  | none, none, none, none => .error .mixedArray

def ofValue : Value → Except AttributeError Attribute
  | .list items | .tuple items => do ofScalars (← items.mapM Scalar.ofValue)
  | value => Scalar.toAttribute <$> Scalar.ofValue value

def kind : Attribute → AttributeKind
  | .string _ => .string
  | .boolean _ => .boolean
  | .long _ => .long
  | .double _ => .double
  | .strings _ => .stringArray
  | .booleans _ => .booleanArray
  | .longs _ => .longArray
  | .doubles _ => .doubleArray

def booleanText (truth : Bool) : String := if truth then "true" else "false"

def longText (number : Int) : Except AttributeError String :=
  (Number.writeInteger number).mapError AttributeError.tooManyDigits

/-- The text of a double precision number. -/
def doubleText (number : Double) : String := number.text DoubleFormat.plain

/-- The texts of the items of a sequence with commas between them. -/
def joined (texts : List String) : String := String.intercalate "," texts

/-- The canonical text of an attribute. -/
def text : Attribute → Except AttributeError String
  | .string text => .ok text
  | .boolean truth => .ok (booleanText truth)
  | .long number => longText number
  | .double number => .ok (doubleText number)
  | .strings items => .ok (joined items)
  | .booleans items => .ok (joined (items.map booleanText))
  | .longs items => joined <$> items.mapM longText
  | .doubles items => .ok (joined (items.map doubleText))

end Attribute

/-- The canonical text of a value that is an attribute. -/
def Value.attributeText (value : Value) : Except AttributeError String := do
  (← Attribute.ofValue value).text

end SpanBridge
