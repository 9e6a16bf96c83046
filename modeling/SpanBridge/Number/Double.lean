/-!
# Double precision numbers

The binary64 numbers of IEEE 754, with a single not-a-number. A finite number is its sign, its
biased exponent and its fraction, so that equality of values of the type is equality of bits. All
arithmetic is on integers: `Double.magnitude` gives the exact value as a quotient, and
`Double.nearest` rounds a quotient to the nearest number.
-/

set_option autoImplicit false
set_option relaxedAutoImplicit false

namespace SpanBridge

/-- How many fractions there are: two to the power 52. -/
abbrev Double.fractionCount : Nat := 0x10000000000000

/-- A double precision number. -/
inductive Double where
  | nan
  | infinite (negative : Bool)
  | finite (negative : Bool) (exponent : Fin 2047) (fraction : Fin Double.fractionCount)
  deriving DecidableEq, Repr, Inhabited

namespace Double

/-- The integer that a finite number multiplies by a power of two. -/
def significand (exponent : Fin 2047) (fraction : Fin fractionCount) : Nat :=
  if exponent.val = 0 then fraction.val else fractionCount + fraction.val

/-- The power of two of a finite number, counted up from the least one. -/
def scale (exponent : Fin 2047) : Nat := exponent.val - 1

/-- The exponent of the least power of two, with its sign changed. -/
def leastScale : Nat := 1074

/-- A power of two above or below one, as a quotient. -/
def powerOfTwo (scale : Nat) : Nat × Nat :=
  (Nat.pow 2 (scale - leastScale), Nat.pow 2 (leastScale - scale))

/-- The exact magnitude of a finite number as a quotient. -/
def magnitude (exponent : Fin 2047) (fraction : Fin fractionCount) : Nat × Nat :=
  let (above, below) := powerOfTwo (scale exponent)
  (significand exponent fraction * above, below)

def zero (negative : Bool) : Double := .finite negative 0 0

/-- The number whose significand is given at a scale. A significand of twice `fractionCount` carries
into the next scale, and what lies beyond the greatest scale is infinite. -/
def pack (negative : Bool) (significand scale : Nat) : Double :=
  let code := scale * fractionCount + significand
  if h : code / fractionCount < 2047 then
    .finite negative ⟨code / fractionCount, h⟩ ⟨code % fractionCount, Nat.mod_lt _ (by decide)⟩
  else .infinite negative

/-- A quotient rounded to the nearest integer, a half to the even one. -/
def roundQuotient (numerator denominator : Nat) : Nat :=
  let quotient := numerator / denominator
  let twice := 2 * (numerator % denominator)
  if twice < denominator then quotient
  else if denominator < twice then quotient + 1
  else quotient + quotient % 2

/-- The exponent of the greatest power of two that is at most a positive quotient. -/
def floorLog (numerator denominator : Nat) : Int :=
  let estimate : Int := (Nat.log2 numerator : Int) - Nat.log2 denominator
  let reached :=
    if 0 ≤ estimate then denominator * Nat.pow 2 estimate.toNat ≤ numerator
    else denominator ≤ numerator * Nat.pow 2 (-estimate).toNat
  if reached then estimate else estimate - 1

/-- The number nearest to a quotient, a half going to the even significand. -/
def nearest (negative : Bool) (numerator denominator : Nat) : Double :=
  if numerator = 0 then zero negative
  else
    let scale := (floorLog numerator denominator + (leastScale - 52 : Nat)).toNat
    let (above, below) := powerOfTwo scale
    pack negative (roundQuotient (numerator * below) (denominator * above)) scale

/-- How far a decimal exponent may lie from zero before the number is out of range whatever its
first digit. -/
def exponentReach : Nat := 400

/-- The number nearest to `digits * 10 ^ exponent`. -/
def ofDecimal (negative : Bool) (digits : Nat) (exponent : Int) : Double :=
  if digits = 0 then zero negative
  else
    let place := exponent + (Nat.toDigits 10 digits).length
    if place > exponentReach then .infinite negative
    else if place < -(exponentReach : Int) then zero negative
    else nearest negative (digits * Nat.pow 10 exponent.toNat) (Nat.pow 10 (-exponent).toNat)

/-- The number nearest to an integer, unless the integer is out of range. -/
def ofInt? (n : Int) : Option Double :=
  match nearest (n < 0) n.natAbs 1 with
  | .infinite _ => none
  | number => some number

/-- The integer part of a finite number. -/
def truncate? : Double → Option Int
  | .finite negative exponent fraction =>
    let (numerator, denominator) := magnitude exponent fraction
    let part : Int := (numerator / denominator : Nat)
    some (if negative then -part else part)
  | _ => none

/-- The integer that a number is, if it is one. -/
def integer? : Double → Option Int
  | .finite negative exponent fraction =>
    let (numerator, denominator) := magnitude exponent fraction
    if numerator % denominator = 0 then
      let whole : Int := (numerator / denominator : Nat)
      some (if negative then -whole else whole)
    else none
  | _ => none

/-- Whether a number is zero of either sign. -/
def isZero : Double → Bool
  | .finite _ exponent fraction => exponent.val = 0 && fraction.val = 0
  | _ => false

/-- The number with the given bits. Every not-a-number is the same one. -/
def ofBits (bits : UInt64) : Double :=
  let negative := bits ≥ 0x8000000000000000
  let exponent := bits.toNat / fractionCount % 2048
  let fraction := bits.toNat % fractionCount
  if h : exponent < 2047 then
    .finite negative ⟨exponent, h⟩ ⟨fraction, Nat.mod_lt _ (by decide)⟩
  else if fraction = 0 then .infinite negative
  else .nan

/-- The bits of a number, the quiet not-a-number without payload for `nan`. -/
def toBits : Double → UInt64
  | .nan => 0x7ff8000000000000
  | .infinite negative => if negative then 0xfff0000000000000 else 0x7ff0000000000000
  | .finite negative exponent fraction =>
    let sign := if negative then 0x8000000000000000 else 0
    UInt64.ofNat (sign + exponent.val * fractionCount + fraction.val)

end Double
end SpanBridge
