import SpanBridge.Number.Double

/-!
# Shortest decimal of a number

`Double.shortest` finds the decimal with the fewest digits that reads back as the same number, and
of several such the nearest one. For one, two, … seventeen digits it looks at the two decimals that
enclose the number; should none of them read back, the exact expansion does. `Double.text` lays the
digits out by a `DoubleFormat`.
-/

set_option autoImplicit false
set_option relaxedAutoImplicit false

namespace SpanBridge
namespace Double

/-- A decimal `digits * 10 ^ exponent`. -/
structure Decimal where
  digits : Nat
  exponent : Int
  deriving DecidableEq, Repr

/-- The power of ten of the first digit of a positive quotient. -/
def leadingPlace (numerator denominator : Nat) : Int :=
  if denominator ≤ numerator then
    ((Nat.toDigits 10 (numerator / denominator)).length : Int) - 1
  else
    let places := (Nat.toDigits 10 (denominator / numerator)).length
    if denominator ≤ numerator * Nat.pow 10 (places - 1) then 1 - (places : Int)
    else -(places : Int)

/-- The two decimals with the last digit at a place that enclose a quotient, the nearer first and of
two equally near the even one. -/
def enclosing (numerator denominator : Nat) (place : Int) : List Decimal :=
  let scaled := numerator * Nat.pow 10 (-place).toNat
  let unit := denominator * Nat.pow 10 place.toNat
  let below : Decimal := ⟨scaled / unit, place⟩
  let above : Decimal := ⟨scaled / unit + 1, place⟩
  let twice := 2 * (scaled % unit)
  if twice < unit || (twice = unit && below.digits % 2 = 0) then [below, above]
  else [above, below]

/-- The exact decimal expansion of a positive finite number. -/
def exact (exponent : Fin 2047) (fraction : Fin fractionCount) : Decimal :=
  let (numerator, denominator) := magnitude exponent fraction
  let places := Nat.log2 denominator
  ⟨numerator * Nat.pow 5 places, -(places : Int)⟩

/-- The shortest decimal that reads back as the positive number of this exponent and fraction. -/
def shortest (exponent : Fin 2047) (fraction : Fin fractionCount) : Decimal :=
  let (numerator, denominator) := magnitude exponent fraction
  let first := leadingPlace numerator denominator
  let candidates := (List.range 17).flatMap fun (more : Nat) ↦
    enclosing numerator denominator (first - more)
  (candidates.find? fun decimal ↦
    ofDecimal false decimal.digits decimal.exponent = .finite false exponent fraction).getD
      (exact exponent fraction)

end Double

/-- The choices in writing a number: the names of the values that are not finite, the powers of ten
of the first digit that are written positionally, and the least number of exponent digits. -/
structure DoubleFormat where
  nan : String
  infinity : String
  leastPlace : Int
  greatestPlace : Int
  exponentDigits : Nat

/-- Positional from `0.0001` to below `10 ^ 16`, else with a signed exponent of at least two digits.
-/
def DoubleFormat.plain : DoubleFormat := ⟨"NaN", "Infinity", -4, 15, 2⟩

namespace Double

/-- An exponent with its sign, padded with zeros. -/
def exponentText (width : Nat) (exponent : Int) : List Char :=
  let digits := Nat.toDigits 10 exponent.natAbs
  (if exponent < 0 then '-' else '+') :: (List.replicate (width - digits.length) '0' ++ digits)

/-- Digits laid out with the first of them at a power of ten. -/
def layOut (format : DoubleFormat) (digits : List Char) (place : Int) : List Char :=
  if format.leastPlace ≤ place && place ≤ format.greatestPlace then
    if place < 0 then '0' :: '.' :: (List.replicate ((-place).toNat - 1) '0' ++ digits)
    else
      let whole := place.toNat + 1
      let after := digits.drop whole
      digits.take whole ++ List.replicate (whole - digits.length) '0'
        ++ '.' :: (if after.isEmpty then ['0'] else after)
  else
    let after := digits.drop 1
    digits.take 1 ++ (if after.isEmpty then [] else '.' :: after)
      ++ 'e' :: exponentText format.exponentDigits place

/-- The text of a decimal, its trailing zeros left out. -/
def Decimal.text (format : DoubleFormat) (decimal : Decimal) : List Char :=
  let digits := Nat.toDigits 10 decimal.digits
  let place := decimal.exponent + digits.length - 1
  layOut format (digits.reverse.dropWhile (· = '0')).reverse place

/-- The shortest text that reads back as the number. -/
def text (format : DoubleFormat) : Double → String
  | .nan => format.nan
  | .infinite negative => (if negative then "-" else "") ++ format.infinity
  | .finite negative exponent fraction =>
    let sign := if negative then "-" else ""
    if exponent.val = 0 && fraction.val = 0 then sign ++ "0.0"
    else sign ++ String.ofList ((shortest exponent fraction).text format)

end Double
end SpanBridge
