import SpanBridge.Number.Decimal
import SpanBridge.Number.Shortest
import SpanBridge.Text.Quoted
import SpanBridge.Value.Basic

/-!
# Values in messages

`Value.shown` is the form of a value inside a message: texts are quoted, sequences and maps are
bracketed. `Value.plain` differs from it only in leaving a text as it is.
-/

set_option autoImplicit false
set_option relaxedAutoImplicit false

namespace SpanBridge

/-- Numbers in messages name the values that are not finite in small letters. -/
def DoubleFormat.small : DoubleFormat := { DoubleFormat.plain with nan := "nan", infinity := "inf" }

namespace Value

/-- One byte between the marks: a character of ASCII, else two hexadecimal digits. -/
def escapeByte (mark : Char) (byte : UInt8) : List Char :=
  let c := Char.ofNat byte.toNat
  if byte < 0x80 then Text.Quoted.escape mark c else '\\' :: 'x' :: Text.hexDigits 2 byte.toNat

/-- Bytes are shown as a quoted text after a letter. -/
def shownBytes (content : List UInt8) : String :=
  let mark := Text.Quoted.mark (content.map fun byte ↦ Char.ofNat byte.toNat)
  String.ofList ('b' :: mark :: content.flatMap (escapeByte mark) ++ [mark])

mutual

/-- A value inside a message. -/
def shown : Value → String
  | .null => "None"
  | .bool truth => if truth then "True" else "False"
  | .int number => Number.integerText number
  | .double number => number.text DoubleFormat.small
  | .str text => Text.quoted text
  | .bytes content => shownBytes content
  | .list items => "[" ++ String.intercalate ", " (shownItems items) ++ "]"
  | .tuple [item] => "(" ++ shown item ++ ",)"
  | .tuple items => "(" ++ String.intercalate ", " (shownItems items) ++ ")"
  | .map entries => "\x7b" ++ String.intercalate ", " (shownEntries entries) ++ "\x7d"

/-- The items of a sequence inside a message. -/
def shownItems : List Value → List String
  | [] => []
  | item :: items => shown item :: shownItems items

/-- The entries of a map inside a message. -/
def shownEntries : List (Value × Value) → List String
  | [] => []
  | (key, value) :: entries => (shown key ++ ": " ++ shown value) :: shownEntries entries

end

def plain : Value → String
  | .str text => text
  | value => value.shown

end Value
end SpanBridge
