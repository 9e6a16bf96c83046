import SpanBridge.Entries
import SpanBridge.Json.Basic
import SpanBridge.Number.Reading

/-!
# Reading JSON

`Json.read` reads a document from a text. Beside the standard it accepts the names of infinity and
of not-a-number; of members with one name the last value counts, at the place of the first. A text
that is no document is refused with the place of the first character that cannot belong to one. An
integer with too many digits is refused whatever follows it.

Two things are left out. Texts consist of characters, and half of a pair is none: where an escape
spells half of a pair alone, the text that is read has the replacement character. And a text may be
nested to any depth here, whereas a machine has room for so much recursion only.
-/

set_option autoImplicit false
set_option relaxedAutoImplicit false

namespace SpanBridge.Json

/-! ### Errors -/

/-- What is wrong at a place of a text. -/
inductive Fault where
  | byteOrderMark
  | valueExpected
  | nameExpected
  | colonExpected
  | commaExpected
  | extraData
  | controlCharacter
  | unterminatedString
  | badEscape
  | badUnicodeEscape
  deriving DecidableEq, Repr

def Fault.message : Fault → String
  | .byteOrderMark => "Unexpected UTF-8 BOM (decode using utf-8-sig)"
  | .valueExpected => "Expecting value"
  | .nameExpected => "Expecting property name enclosed in double quotes"
  | .colonExpected => "Expecting ':' delimiter"
  | .commaExpected => "Expecting ',' delimiter"
  | .extraData => "Extra data"
  | .controlCharacter => "Invalid control character at"
  | .unterminatedString => "Unterminated string starting at"
  | .badEscape => "Invalid \\escape"
  | .badUnicodeEscape => "Invalid \\uXXXX escape"

/-- A fault with its place: the offset in characters, and the line and column counted from one. -/
structure SyntaxError where
  fault : Fault
  line : Nat
  column : Nat
  offset : Nat
  deriving DecidableEq, Repr

def SyntaxError.message (e : SyntaxError) : String :=
  e.fault.message ++ ": line " ++ toString e.line ++ " column " ++ toString e.column
    ++ " (char " ++ toString e.offset ++ ")"

/-- Why a text cannot be read. -/
inductive ReadError where
  | malformed (error : SyntaxError)
  | tooManyDigits (error : Number.DigitLimitError)
  deriving DecidableEq, Repr

def ReadError.message : ReadError → String
  | .malformed error => error.message
  | .tooManyDigits error => error.message

/-- Why reading stopped. A fault comes with the number of characters from its place to the end. -/
inductive Stop where
  | fault (fault : Fault) (remaining : Nat)
  | digits (count : Nat)
  deriving DecidableEq, Repr

/-- The place in a text from which a number of characters remains. -/
def SyntaxError.locate (text : List Char) (fault : Fault) (remaining : Nat) : SyntaxError :=
  let before := text.take (text.length - remaining)
  { fault
    line := before.count '\n' + 1
    column := (before.reverse.takeWhile (· ≠ '\n')).length + 1
    offset := before.length }

/-! ### Blanks and words -/

/-- The characters that may stand between tokens. -/
def isSeparator (c : Char) : Bool := c = ' ' || c = '\t' || c = '\n' || c = '\r'

/-- A text from its first character that is no separator. -/
def skipBlanks (chars : List Char) : List Char := chars.dropWhile isSeparator

/-- What follows a word at the start of a text. -/
def afterWord? : (word chars : List Char) → Option (List Char)
  | [], chars => some chars
  | _ :: _, [] => none
  | w :: word, c :: chars => if w = c then afterWord? word chars else none

/-- The values written as words. -/
def words : List (List Char × Json) :=
  [ (['n', 'u', 'l', 'l'], .null), (['t', 'r', 'u', 'e'], .bool true),
    (['f', 'a', 'l', 's', 'e'], .bool false), (['N', 'a', 'N'], .double .nan),
    (['I', 'n', 'f', 'i', 'n', 'i', 't', 'y'], .double (.infinite false)),
    (['-', 'I', 'n', 'f', 'i', 'n', 'i', 't', 'y'], .double (.infinite true)) ]

/-- Reads a value written as a word. -/
def readWord? (chars : List Char) : Option (Json × List Char) :=
  words.findSome? fun (word, value) ↦ (afterWord? word chars).map (value, ·)

/-! ### Numbers -/

/-- The leading ASCII digits and what follows them. -/
def leadingDigits : List Char → List Nat × List Char
  | [] => ([], [])
  | c :: rest =>
    match Number.asciiDigit? c with
    | some digit => let (digits, after) := leadingDigits rest; (digit :: digits, after)
    | none => ([], c :: rest)

/-- The digits before the point: a single zero, or digits of which the first is not zero. -/
def wholePart? (chars : List Char) : Option (List Nat × List Char) :=
  match leadingDigits chars with
  | ([], _) => none
  | (0 :: _, _) => some ([0], chars.drop 1)
  | (digits, after) => some (digits, after)

/-- The digits after a point, if a point with digits stands here. -/
def decimalsPart? : List Char → Option (List Nat × List Char)
  | '.' :: rest =>
    match leadingDigits rest with
    | ([], _) => none
    | (digits, after) => some (digits, after)
  | _ => none

/-- The exponent, if a mark with digits stands here. -/
def exponentPart? : List Char → Option (Int × List Char)
  | mark :: rest =>
    if mark = 'e' || mark = 'E' then
      let (negative, body) := Number.splitSign rest
      match leadingDigits body with
      | ([], _) => none
      | (digits, after) => some (Number.signed negative (Number.ofDigits digits), after)
    else none
  | [] => none

def minusSign : List Char → Bool × List Char
  | '-' :: rest => (true, rest)
  | chars => (false, chars)

/-- Reads a number: an integer unless a point with digits or an exponent follows. -/
def readNumber (chars : List Char) : Except Stop (Json × List Char) :=
  let (negative, body) := minusSign chars
  match wholePart? body with
  | none => .error (.fault .valueExpected chars.length)
  | some (whole, afterWhole) =>
    let decimals := decimalsPart? afterWhole
    let afterDecimals := (decimals.map (·.2)).getD afterWhole
    let exponent := exponentPart? afterDecimals
    if decimals.isNone && exponent.isNone then
      if whole.length ≤ Number.digitLimit then
        .ok (.int (Number.signed negative (Number.ofDigits whole)), afterWhole)
      else .error (.digits whole.length)
    else
      let parts : Number.DecimalParts :=
        ⟨whole, (decimals.map (·.1)).getD [], (exponent.map (·.1)).getD 0⟩
      .ok (.double (parts.toDouble negative), (exponent.map (·.2)).getD afterDecimals)

/-! ### Strings -/

def hexValue? (c : Char) : Option Nat :=
  if '0' ≤ c && c ≤ '9' then some (c.toNat - '0'.toNat)
  else if 'a' ≤ c && c ≤ 'f' then some (c.toNat - 'a'.toNat + 10)
  else if 'A' ≤ c && c ≤ 'F' then some (c.toNat - 'A'.toNat + 10)
  else none

/-- The value of four hexadecimal digits. -/
def hexUnit? (a b c d : Char) : Option Nat := do
  return (((← hexValue? a) * 16 + (← hexValue? b)) * 16 + (← hexValue? c)) * 16 + (← hexValue? d)

/-- The character that a letter after a backslash stands for. -/
def escaped? : Char → Option Char
  | '"' => some '"'
  | '\\' => some '\\'
  | '/' => some '/'
  | 'b' => some '\x08'
  | 'f' => some '\x0c'
  | 'n' => some '\n'
  | 'r' => some '\r'
  | 't' => some '\t'
  | _ => none

/-- The units of a string up to its closing quote, and what follows. A unit is a code point, or half
of one where an escape spells half of a pair. The length of the text from the opening quote on
places the fault of a string without end. -/
def stringUnits (opening : Nat) : List Char → Except Stop (List Nat × List Char)
  | [] => .error (.fault .unterminatedString opening)
  | '"' :: rest => .ok ([], rest)
  | '\\' :: 'u' :: a :: b :: c :: d :: rest =>
    match hexUnit? a b c d, rest with
    | some unit, _ :: _ => do
      let (units, after) ← stringUnits opening rest
      return (unit :: units, after)
    | _, _ => .error (.fault .badUnicodeEscape (rest.length + 5))
  | '\\' :: c :: rest =>
    if c = 'u' then .error (.fault .badUnicodeEscape (rest.length + 1))
    else
      match escaped? c with
      | some char => do
        let (units, after) ← stringUnits opening rest
        return (char.toNat :: units, after)
      | none => .error (.fault .badEscape (rest.length + 2))
  | c :: rest =>
    if c = '\\' then .error (.fault .unterminatedString opening)
    else if c.toNat < 0x20 then .error (.fault .controlCharacter (rest.length + 1))
    else do
      let (units, after) ← stringUnits opening rest
      return (c.toNat :: units, after)

/-- The character of a code point. Half of a pair alone is no code point, and texts cannot hold it.
It gives the replacement character. -/
def charOfUnit (unit : Nat) : Char := if unit.isValidChar then Char.ofNat unit else '\ufffd'

/-- Joins the halves of pairs. -/
def joinUnits : List Nat → List Char
  | [] => []
  | [unit] => [charOfUnit unit]
  | first :: second :: rest =>
    if 0xd800 ≤ first && first < 0xdc00 && 0xdc00 ≤ second && second < 0xe000 then
      Char.ofNat (0x10000 + (first - 0xd800) * 0x400 + (second - 0xdc00)) :: joinUnits rest
    else charOfUnit first :: joinUnits (second :: rest)

/-- Reads a string after its opening quote. -/
def readString (chars : List Char) : Except Stop (String × List Char) := do
  let (units, after) ← stringUnits (chars.length + 1) chars
  return (String.ofList (joinUnits units), after)

/-! ### Values -/

mutual

/-- Reads a value. The fuel bounds the steps; twice the length of the text is enough. -/
def readValue : (fuel : Nat) → List Char → Except Stop (Json × List Char)
  | 0, chars => .error (.fault .valueExpected chars.length)
  | fuel + 1, chars =>
    match chars with
    | '"' :: rest => do
      let (text, after) ← readString rest
      return (.str text, after)
    | '[' :: rest =>
      match skipBlanks rest with
      | ']' :: after => return (.arr [], after)
      | rest => do
        let (items, after) ← readItems fuel rest
        return (.arr items, after)
    | '\x7b' :: rest =>
      match skipBlanks rest with
      | '\x7d' :: after => return (.obj [], after)
      | rest => do
        let (members, after) ← readMembers fuel rest
        return (.obj (Entries.ofList (· = ·) members), after)
    | chars =>
      match readWord? chars with
      | some (value, after) => return (value, after)
      | none => readNumber chars

/-- Reads the items of an array that has some, and its closing bracket. -/
def readItems : (fuel : Nat) → List Char → Except Stop (List Json × List Char)
  | 0, chars => .error (.fault .valueExpected chars.length)
  | fuel + 1, chars => do
    let (item, rest) ← readValue fuel chars
    match skipBlanks rest with
    | ']' :: after => return ([item], after)
    | ',' :: rest => do
      let (items, after) ← readItems fuel (skipBlanks rest)
      return (item :: items, after)
    | rest => throw (.fault .commaExpected rest.length)

/-- Reads the members of an object that has some, and its closing brace. -/
def readMembers : (fuel : Nat) → List Char → Except Stop (List (String × Json) × List Char)
  | 0, chars => .error (.fault .nameExpected chars.length)
  | fuel + 1, chars =>
    match chars with
    | '"' :: rest => do
      let (name, rest) ← readString rest
      match skipBlanks rest with
      | ':' :: rest => do
        let (value, rest) ← readValue fuel (skipBlanks rest)
        match skipBlanks rest with
        | '\x7d' :: after => return ([(name, value)], after)
        | ',' :: rest => do
          let (members, after) ← readMembers fuel (skipBlanks rest)
          return ((name, value) :: members, after)
        | rest => throw (.fault .commaExpected rest.length)
      | rest => throw (.fault .colonExpected rest.length)
    | chars => .error (.fault .nameExpected chars.length)

end

/-- Reads a text that holds one document and separators around it. -/
def readChars (chars : List Char) : Except Stop Json :=
  if chars.head? = some '\ufeff' then .error (.fault .byteOrderMark chars.length)
  else do
    let (document, rest) ← readValue (2 * chars.length + 2) (skipBlanks chars)
    match skipBlanks rest with
    | [] => return document
    | rest => throw (.fault .extraData rest.length)

/-- Reads a document from a text. -/
def read (text : String) : Except ReadError Json :=
  (readChars text.toList).mapError fun
    | .fault fault remaining => .malformed (.locate text.toList fault remaining)
    | .digits count => .tooManyDigits (.reading count)

end SpanBridge.Json
