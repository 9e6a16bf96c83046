import SpanBridge.Number.Decimal
import SpanBridge.Number.Double

/-!
# Reading a double precision number

`readDouble?` reads a number from a text: blanks around it, a sign, digits with single underscores
between them, a point, an exponent; or the name of infinity or of not-a-number in letters of any
case.
-/

set_option autoImplicit false
set_option relaxedAutoImplicit false

namespace SpanBridge.Number

/-- A decimal number in parts: digits before and after the point, and the exponent. -/
structure DecimalParts where
  whole : List Nat
  decimals : List Nat
  exponent : Int
  deriving DecidableEq, Repr

/-- The number nearest to what the parts spell. -/
def DecimalParts.toDouble (negative : Bool) (parts : DecimalParts) : Double :=
  Double.ofDecimal negative (ofDigits (parts.whole ++ parts.decimals))
    (parts.exponent - parts.decimals.length)

/-- A text with the capital letters of ASCII made small. -/
def asciiSmall (chars : List Char) : List Char := chars.map Char.toLower

/-- The exponent that makes up a whole text, if the text is empty or one. -/
def exponentPart? : List Char → Option Int
  | [] => some 0
  | mark :: rest =>
    if mark = 'e' || mark = 'E' then
      let (negative, body) := splitSign rest
      match digitRun body with
      | (digit :: digits, []) => some (signed negative (ofDigits (digit :: digits)))
      | _ => none
    else none

/-- The parts of an unsigned decimal number. -/
def decimalParts? (chars : List Char) : Option DecimalParts :=
  let (whole, afterWhole) := digitRun chars
  let (decimals, rest) := match afterWhole with
    | '.' :: afterPoint => digitRun afterPoint
    | _ => ([], afterWhole)
  if whole.isEmpty && decimals.isEmpty then none
  else (exponentPart? rest).map fun exponent ↦ ⟨whole, decimals, exponent⟩

/-- Reads a number from a text that holds nothing else. -/
def readDouble? (text : String) : Option Double :=
  let (negative, body) := splitSign (trimBlanks (asciiSpelling text.toList))
  match decimalParts? body with
  | some parts => some (parts.toDouble negative)
  | none =>
    let name := String.ofList (asciiSmall body)
    if name = "inf" || name = "infinity" then some (.infinite negative)
    else if name = "nan" then some .nan
    else none

end SpanBridge.Number
