/-!
# Categories of failures

Callers react to the category of a failure and not to its cause: an exporter answers some categories
with a failed batch, and a command with an exit code.
-/

set_option autoImplicit false
set_option relaxedAutoImplicit false

namespace SpanBridge

/-- What sort of failure occurred. -/
inductive Category where
  /-- A text is no document. -/
  | malformed
  /-- Bytes are no text. -/
  | undecodable
  /-- Something of the right type is not acceptable. -/
  | invalid
  /-- Something is of a type for which an operation has no meaning. -/
  | wrongType
  /-- Something is of a type that lacks an operation. -/
  | missingOperation
  /-- A table has no entry for a key. -/
  | unknownKey
  /-- A number is out of range. -/
  | overflow
  /-- There is no memory for a result. -/
  | memory
  /-- A file does not exist. -/
  | missingFile
  /-- The system refused a request. -/
  | system
  deriving DecidableEq, Repr

/-- Whether the category is about unacceptable input, be it bytes, a text or a value. -/
def Category.isInvalid : Category → Bool
  | .malformed | .undecodable | .invalid => true
  | _ => false

end SpanBridge
