/-!
# Ranges of code points

A character class given as data: a list of closed ranges of code points. `CodeRanges.contain`
decides membership.
-/

set_option autoImplicit false
set_option relaxedAutoImplicit false

namespace SpanBridge.Text

/-- Closed ranges of code points, first and last. -/
abbrev CodeRanges := List (Nat × Nat)

/-- Whether some range holds the character. -/
def CodeRanges.contain (ranges : CodeRanges) (c : Char) : Bool :=
  ranges.any fun range ↦ range.1 ≤ c.toNat && c.toNat ≤ range.2

end SpanBridge.Text
