import SpanBridge.Category
import SpanBridge.Json.Basic
import SpanBridge.Number.Reading
import SpanBridge.Text.LetterCase
import SpanBridge.Value.Display
import SpanBridge.Value.Order

/-!
# The shape of a document

Reading spans asks for members, items, numbers and texts of documents that may have any shape. Each
request is a function here, and each says with a `ShapeError` that what it met has no such thing. A
text counts as the sequence of its characters and an object as the sequence of its names.
-/

set_option autoImplicit false
set_option relaxedAutoImplicit false

namespace SpanBridge

/-- What a part of a document lacks. The types are given by their words. -/
inductive ShapeError where
  | noMembers (typeName : String)
  | noSmallLetters (typeName : String)
  | notIterable (typeName : String)
  | noContents (typeName : String)
  | textIndexedByName
  | arrayIndexedByName
  | unhashable (typeName : String)
  | notANumber (typeName : String)
  | notANumeral (text : String)
  | badInteger (shown : String)
  | infiniteInteger
  | integerTooLarge
  | incomparable (pair : Incomparable)
  deriving DecidableEq, Repr

def ShapeError.message : ShapeError → String
  | .noMembers typeName => "'" ++ typeName ++ "' object has no attribute 'get'"
  | .noSmallLetters typeName => "'" ++ typeName ++ "' object has no attribute 'lower'"
  | .notIterable typeName => "'" ++ typeName ++ "' object is not iterable"
  | .noContents typeName => "argument of type '" ++ typeName ++ "' is not iterable"
  | .textIndexedByName => "string indices must be integers, not 'str'"
  | .arrayIndexedByName => "list indices must be integers or slices, not str"
  | .unhashable typeName => "unhashable type: '" ++ typeName ++ "'"
  | .notANumber typeName =>
    "float() argument must be a string or a real number, not '" ++ typeName ++ "'"
  | .notANumeral text => "could not convert string to float: " ++ Text.quoted text
  | .badInteger shown => "Invalid integer value: " ++ shown
  | .infiniteInteger => "cannot convert float infinity to integer"
  | .integerTooLarge => "int too large to convert to float"
  | .incomparable pair => pair.message

def ShapeError.category : ShapeError → Category
  | .noMembers _ | .noSmallLetters _ => .missingOperation
  | .notIterable _ | .noContents _ | .textIndexedByName | .arrayIndexedByName | .unhashable _
  | .notANumber _ | .incomparable _ => .wrongType
  | .notANumeral _ | .badInteger _ => .invalid
  | .infiniteInteger | .integerTooLarge => .overflow

namespace Json

/-- The member of an object with a name, if it has one. -/
def member? (name : String) : Json → Except ShapeError (Option Json)
  | .obj members => .ok (members.lookup name)
  | document => .error (.noMembers document.typeName)

/-- The member of an object with a name, or a default. -/
def memberOr (document : Json) (name : String) (default : Json) : Except ShapeError Json :=
  (Option.getD · default) <$> document.member? name

def elements : Json → Except ShapeError (List Json)
  | .arr items => .ok items
  | .str text => .ok (text.toList.map fun c ↦ .str (String.singleton c))
  | .obj members => .ok (members.map fun member ↦ .str member.1)
  | document => .error (.notIterable document.typeName)

def small : Json → Except ShapeError String
  | .str text => .ok (Text.LetterCase.toSmall text)
  | document => .error (.noSmallLetters document.typeName)

/-- A value that may serve as a key. -/
def toKey : Json → Except ShapeError Value
  | .arr items => .error (.unhashable (Json.arr items).typeName)
  | .obj members => .error (.unhashable (Json.obj members).typeName)
  | document => .ok document.toValue

/-- The integer that a number or the text of one stands for. A fraction is cut off. -/
def toInteger (document : Json) : Except ShapeError Int :=
  let bad : ShapeError := .badInteger document.toValue.shown
  match document with
  | .int number => .ok number
  | .bool truth => .ok (if truth then 1 else 0)
  | .double (.infinite _) => .error .infiniteInteger
  | .double number => number.truncate?.elim (.error bad) .ok
  | .str text => (Number.readInteger? text).elim (.error bad) .ok
  | _ => .error bad

/-- The double precision number that a number or the text of one stands for. -/
def toDouble : Json → Except ShapeError Double
  | .double number => .ok number
  | .int number => (Double.ofInt? number).elim (.error .integerTooLarge) .ok
  | .bool truth => (Double.ofInt? (if truth then 1 else 0)).elim (.error .integerTooLarge) .ok
  | .str text => (Number.readDouble? text).elim (.error (.notANumeral text)) .ok
  | document => .error (.notANumber document.typeName)

end Json
end SpanBridge
