import SpanBridge.Text.CodeRanges

/-!
# Blank characters

Two classes of white space: the one of ASCII, which a number's text may carry at either end, and the
wider one of Unicode.
-/

set_option autoImplicit false
set_option relaxedAutoImplicit false

namespace SpanBridge.Text

/-- The space and the five controls from tab to carriage return. -/
def isAsciiBlank (c : Char) : Bool := c = ' ' || ('\t' ≤ c && c ≤ '\r')

/-- White space of any script, the four information separators included. -/
def blankRanges : CodeRanges :=
  [ (0x09, 0x0d), (0x1c, 0x20), (0x85, 0x85), (0xa0, 0xa0), (0x1680, 0x1680), (0x2000, 0x200a),
    (0x2028, 0x2029), (0x202f, 0x202f), (0x205f, 0x205f), (0x3000, 0x3000) ]

/-- Whether a character is white space of any script. -/
def isBlank (c : Char) : Bool := blankRanges.contain c

end SpanBridge.Text
