import SpanBridge.Otlp.Shape
import SpanBridge.Trace.Attribute
import SpanBridge.Value.Mapping

/-!
# Attribute values in OTLP

OTLP writes an attribute value as an object with one member, whose name tells the kind. Here
`Otlp.decodeValue` reads it and `Otlp.decodeAttributes` reads a list of keys with values. Of several
members the first kind in the order text, truth value, integer, number, array counts. Like the
reader of the text, `Otlp.decodeValue` follows arrays to any depth.
-/

set_option autoImplicit false
set_option relaxedAutoImplicit false

namespace SpanBridge.Otlp

/-- Why a document yields no spans or attributes. -/
inductive DocumentError where
  | shape (error : ShapeError)
  | missingResourceSpans
  | missingKey
  | missingSpanId
  | unknownKind (shown : String)
  | unknownStatus (shown : String)
  | unsupportedValue (shown : String)
  | badArray (error : AttributeError)
  deriving DecidableEq, Repr

def DocumentError.message : DocumentError → String
  | .shape error => error.message
  | .missingResourceSpans => "Unsupported OTLP format: missing resourceSpans"
  | .missingKey => "Attribute is missing its key"
  | .missingSpanId => "Span is missing traceId or spanId"
  | .unknownKind shown => "Unknown span kind: " ++ shown
  | .unknownStatus shown => "Unknown status code: " ++ shown
  | .unsupportedValue shown => "Unsupported attribute value: " ++ shown
  | .badArray error => "Invalid array attribute: " ++ error.message

def DocumentError.category : DocumentError → Category
  | .shape error => error.category
  | _ => .invalid

/-- A request to a document, as part of reading spans. -/
def ask {α : Type} (answer : Except ShapeError α) : Except DocumentError α :=
  answer.mapError DocumentError.shape

/-- The names of the kinds of values, in the order in which they count. -/
def valueKinds : List String :=
  ["stringValue", "boolValue", "intValue", "doubleValue", "arrayValue"]

/-- Refuses a value of no known kind. It is shown by its sorted items. -/
def unsupported {α : Type} (items : List Value) : Except DocumentError α := do
  let sorted ← ask ((Value.sorted items).mapError ShapeError.incomparable)
  throw (.unsupportedValue (Value.list sorted).shown)

def holdsText (part : List Char) : (text : List Char) → Bool
  | [] => part.isEmpty
  | c :: rest => part.isPrefixOf (c :: rest) || holdsText part rest

/-- A text in place of a value is searched for the name of a kind, and refused either way. -/
def decodeText {α : Type} (text : String) : Except DocumentError α :=
  if valueKinds.any fun kind ↦ holdsText kind.toList text.toList then
    throw (.shape .textIndexedByName)
  else unsupported (text.toList.map fun c ↦ .str (String.singleton c))

/-- The value of a kind that has no parts. -/
def decodeScalar (kind : String) (payload : Json) : Except DocumentError Value :=
  if kind = "stringValue" then .ok (.str payload.toValue.plain)
  else if kind = "boolValue" then .ok (.bool payload.isTruthy)
  else if kind = "intValue" then Value.int <$> ask payload.toInteger
  else Value.double <$> ask payload.toDouble

/-- The value of the first kind without parts that an object has. -/
def scalarMember? (members : List (String × Json)) : Option (Except DocumentError Value) :=
  (valueKinds.dropLast).findSome? fun kind ↦ (members.lookup kind).map (decodeScalar kind)

def sequenceOf (items : List Value) : Except DocumentError Value := do
  let _ ← (Attribute.ofValue (.tuple items)).mapError DocumentError.badArray
  return .tuple items

mutual

def decodeValue : Json → Except DocumentError Value
  | .obj members =>
    match scalarMember? members with
    | some value => value
    | none =>
      match arrayMember? members with
      | some items => do sequenceOf (← items)
      | none => unsupported (members.map fun member ↦ .str member.1)
  | .str text => decodeText text
  | .arr items =>
    if items.any fun item ↦ valueKinds.any fun kind ↦ item.toValue = .str kind then
      throw (.shape .arrayIndexedByName)
    else unsupported (Json.itemValues items)
  | document => throw (.shape (.noContents document.typeName))

/-- The items of the array that an object holds as a value. -/
def arrayMember? : List (String × Json) → Option (Except DocumentError (List Value))
  | [] => none
  | (name, payload) :: members =>
    if name = "arrayValue" then some (arrayItems payload) else arrayMember? members

/-- The items of an array. What is not present has none. -/
def arrayItems : Json → Except DocumentError (List Value)
  | .obj members => (valuesMember? members).getD (.ok [])
  | payload =>
    if payload.isTruthy then throw (.shape (.noMembers payload.typeName)) else .ok []

/-- The values under their name in an array. -/
def valuesMember? : List (String × Json) → Option (Except DocumentError (List Value))
  | [] => none
  | (name, values) :: members =>
    if name = "values" then some (decodeSequence values) else valuesMember? members

def decodeSequence : Json → Except DocumentError (List Value)
  | .arr items => decodeItems items
  | .str text => text.toList.mapM fun c ↦ decodeText (String.singleton c)
  | .obj members => members.mapM fun member ↦ decodeText member.1
  | document => throw (.shape (.notIterable document.typeName))

def decodeItems : List Json → Except DocumentError (List Value)
  | [] => .ok []
  | item :: items => return (← decodeValue item) :: (← decodeItems items)

end

def decodeEntry (attributes : Mapping) (entry : Json) : Except DocumentError Mapping := do
  let key ← ask (entry.memberOr "key" .null)
  if !key.isTruthy then throw .missingKey
  let value ← decodeValue (← ask (entry.memberOr "value" (.obj [])))
  return attributes.insertAlike (← ask key.toKey) value

/-- Reads a list of keys with values. A key that comes again takes its last value. -/
def decodeAttributes (entries : Json) : Except DocumentError Mapping := do
  (← ask entries.elements).foldlM decodeEntry .empty

end SpanBridge.Otlp
