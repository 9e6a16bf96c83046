import SpanBridge.Text.Printable

/-!
# Quoted text

The form in which a message shows a text: between single quotes, or between double quotes when the
text holds a single quote and no double one, with a backslash escape for what has no visible form.
-/

set_option autoImplicit false
set_option relaxedAutoImplicit false

namespace SpanBridge.Text

/-- A hexadecimal digit in small letters. -/
def hexDigit (value : Nat) : Char := Nat.digitChar value

/-- Exactly the given number of hexadecimal digits, the most significant first. -/
def hexDigits : (width : Nat) → (value : Nat) → List Char
  | 0, _ => []
  | width + 1, value => hexDigits width (value / 16) ++ [hexDigit (value % 16)]

namespace Quoted

/-- The mark that stands on both sides of a text. -/
def mark (text : List Char) : Char :=
  if text.contains '\'' && !text.contains '"' then '"' else '\''

def escape (mark c : Char) : List Char :=
  if c = mark || c = '\\' then ['\\', c]
  else if c = '\t' then ['\\', 't']
  else if c = '\n' then ['\\', 'n']
  else if c = '\r' then ['\\', 'r']
  else if isPrintable c then [c]
  else if c.toNat < 0x100 then '\\' :: 'x' :: hexDigits 2 c.toNat
  else if c.toNat < 0x10000 then '\\' :: 'u' :: hexDigits 4 c.toNat
  else '\\' :: 'U' :: hexDigits 8 c.toNat

end Quoted

def quoted (text : String) : String :=
  let mark := Quoted.mark text.toList
  String.ofList (mark :: text.toList.flatMap (Quoted.escape mark) ++ [mark])

end SpanBridge.Text
