/-!
# Line breaks

A text file may end its lines in three ways. `unifyLineBreaks` writes each of them as one line feed.
-/

set_option autoImplicit false
set_option relaxedAutoImplicit false

namespace SpanBridge.Text

/-- Writes a carriage return, alone or before a line feed, as one line feed. -/
def unifyBreaks : List Char → List Char
  | [] => []
  | '\r' :: '\n' :: rest => '\n' :: unifyBreaks rest
  | c :: rest => (if c = '\r' then '\n' else c) :: unifyBreaks rest

/-- A text with a line feed at the end of every line. -/
def unifyLineBreaks (text : String) : String := String.ofList (unifyBreaks text.toList)

end SpanBridge.Text
