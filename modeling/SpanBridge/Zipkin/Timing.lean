/-!
# Times in microseconds

Zipkin counts in microseconds and spans are recorded in nanoseconds. A timestamp and a duration are
rounded down, except that a span which took some time never has the duration zero.
-/

set_option autoImplicit false
set_option relaxedAutoImplicit false

namespace SpanBridge.Zipkin

/-- Nanoseconds as whole microseconds, rounded down. -/
def toMicros (nanos : Int) : Int := nanos / 1000

/-- When a span started and how long it took, in microseconds. -/
structure Timing where
  timestamp : Int
  duration : Int
  deriving DecidableEq, Repr

/-- The timing of a span that started and ended at times in nanoseconds. -/
def Timing.between (start finish : Int) : Timing :=
  let duration := toMicros (finish - start)
  { timestamp := toMicros start
    duration := if duration = 0 ∧ start < finish then 1 else duration }

end SpanBridge.Zipkin
