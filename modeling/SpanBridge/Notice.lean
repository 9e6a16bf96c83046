/-!
# Notices

What is worth telling an operator although the work goes on: an address that was ignored, a batch
that came too late or could not be converted, a callback that rejected a span.
-/

set_option autoImplicit false
set_option relaxedAutoImplicit false

namespace SpanBridge

/-- How serious a notice is. -/
inductive NoticeLevel where
  | warning
  | error
  deriving DecidableEq, Repr

def NoticeLevel.name : NoticeLevel → String
  | .warning => "WARNING"
  | .error => "ERROR"

/-- Something worth telling. -/
inductive Notice where
  /-- The local address is not one; it is given as a message shows it. -/
  | ignoredAddress (shown : String)
  | alreadyShutDown (spans : Nat)
  | conversionFailed (spans : Nat) (message : String)
  | callbackFailed (spanId message : String)
  deriving DecidableEq, Repr

def Notice.level : Notice → NoticeLevel
  | .ignoredAddress _ | .alreadyShutDown _ => .warning
  | .conversionFailed _ _ | .callbackFailed _ _ => .error

def Notice.message : Notice → String
  | .ignoredAddress shown => "Ignoring invalid local IP address " ++ shown
  | .alreadyShutDown spans =>
    "Exporter already shut down, ignoring batch of " ++ toString spans ++ " spans"
  | .conversionFailed spans message =>
    "Failed to convert batch of " ++ toString spans ++ " spans: " ++ message
  | .callbackFailed spanId message => "Callback failed for span " ++ spanId ++ ": " ++ message

end SpanBridge
