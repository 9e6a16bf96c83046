import SpanBridge.Text.Blank
import SpanBridge.Text.DecimalDigit

/-!
# Integers in decimal

Integers are written in plain decimal and read from a more liberal form: blanks around the number, a
sign, single underscores between digits, and the decimal digits of any script. Both directions stop
at `digitLimit` digits, so that a hostile number cannot make the conversion slow.
-/

set_option autoImplicit false
set_option relaxedAutoImplicit false

namespace SpanBridge.Number

/-- The most decimal digits that an integer may have when it is written or read. -/
def digitLimit : Nat := 4300

/-- An integer with too many digits, either to be written or found in a text. -/
inductive DigitLimitError where
  | writing
  | reading (digits : Nat)
  deriving DecidableEq, Repr

def DigitLimitError.message (e : DigitLimitError) : String :=
  let count := match e with
    | .writing => ""
    | .reading digits => ": value has " ++ toString digits ++ " digits"
  "Exceeds the limit (" ++ toString digitLimit ++ " digits) for integer string conversion" ++ count
    ++ "; use sys.set_int_max_str_digits() to increase the limit"

/-- How many decimal digits an integer has, its sign aside. -/
def digitCount (n : Int) : Nat := (Nat.toDigits 10 n.natAbs).length

def integerText (n : Int) : String := toString n

/-- The decimal text of an integer within the limit. -/
def writeInteger (n : Int) : Except DigitLimitError String :=
  if digitCount n ≤ digitLimit then .ok (integerText n) else .error .writing

def asciiDigit? (c : Char) : Option Nat :=
  if '0' ≤ c && c ≤ '9' then some (c.toNat - '0'.toNat) else none

/-- The number that digits spell, the most significant first. -/
def ofDigits (digits : List Nat) : Nat := digits.foldl (fun value digit ↦ 10 * value + digit) 0

/-- The spelling of a number in ASCII. In a text with characters beyond ASCII every blank becomes a
space and every digit its ASCII form. -/
def asciiSpelling (chars : List Char) : List Char :=
  if chars.all fun c ↦ c.toNat < 0x80 then chars
  else chars.map fun c ↦
    if c.toNat < 0x7f then c
    else if Text.isBlank c then ' '
    else (Text.decimalDigit? c).elim c Nat.digitChar

/-- A text without the ASCII blanks at its ends. -/
def trimBlanks (chars : List Char) : List Char :=
  ((chars.dropWhile Text.isAsciiBlank).reverse.dropWhile Text.isAsciiBlank).reverse

/-- Splits off a leading sign and tells whether it is a minus. -/
def splitSign : List Char → Bool × List Char
  | '-' :: rest => (true, rest)
  | '+' :: rest => (false, rest)
  | rest => (false, rest)

/-- The digits that continue a run, each after at most one underscore, and what follows them. -/
def moreDigits : List Char → List Nat × List Char
  | [] => ([], [])
  | '_' :: c :: rest =>
    match asciiDigit? c with
    | some digit => let (digits, after) := moreDigits rest; (digit :: digits, after)
    | none => ([], '_' :: c :: rest)
  | c :: rest =>
    match asciiDigit? c with
    | some digit => let (digits, after) := moreDigits rest; (digit :: digits, after)
    | none => ([], c :: rest)

/-- The leading run of digits with single underscores between them, and what follows it. -/
def digitRun : List Char → List Nat × List Char
  | [] => ([], [])
  | c :: rest =>
    match asciiDigit? c with
    | some digit => let (digits, after) := moreDigits rest; (digit :: digits, after)
    | none => ([], c :: rest)

def signed (negative : Bool) (magnitude : Nat) : Int := if negative then -magnitude else magnitude

/-- Reads an integer from a text that holds nothing else. -/
def readInteger? (text : String) : Option Int :=
  let (negative, body) := splitSign (trimBlanks (asciiSpelling text.toList))
  match digitRun body with
  | (_ :: _, _ :: _) => none
  | ([], _) => none
  | (digits, []) =>
    if digits.length ≤ digitLimit then some (signed negative (ofDigits digits)) else none

end SpanBridge.Number
