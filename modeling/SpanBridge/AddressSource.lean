import SpanBridge.Address
import SpanBridge.Category

/-!
# Sources of the local address

Each converted span asks an `AddressSource` for the address of its host. A source answers with a
text, with nothing, or fails, and may answer differently each time: it carries a state of its own.
`constant` and `scripted` are sources with answers known beforehand, and `counted` counts the
questions.
-/

set_option autoImplicit false
set_option relaxedAutoImplicit false

namespace SpanBridge

/-- Why a source has no answer. -/
inductive SourceError where
  | notAnAddress (error : AddressError)
  | rejected (message : String)
  | unavailable (message : String)
  deriving DecidableEq, Repr

def SourceError.message : SourceError → String
  | .notAnAddress error => error.message
  | .rejected message => message
  | .unavailable message => message

def SourceError.category : SourceError → Category
  | .notAnAddress _ | .rejected _ => .invalid
  | .unavailable _ => .system

/-- What a source says when asked. -/
abbrev SourceAnswer := Except SourceError (Option String)

/-- Something that can be asked for the local address. -/
structure AddressSource (σ : Type) where
  /-- The answer and the state after it. -/
  ask : σ → SourceAnswer × σ

namespace AddressSource

/-- Always the same answer. -/
def constant (answer : Option String) : AddressSource Unit := ⟨fun state ↦ (.ok answer, state)⟩

/-- Answers given beforehand. The last of them is repeated. -/
def scripted : AddressSource (List SourceAnswer) where
  ask
    | [] => (.ok none, [])
    | [answer] => (answer, [answer])
    | answer :: answers => (answer, answers)

/-- A source together with the number of times it was asked. -/
def counted {σ : Type} (source : AddressSource σ) : AddressSource (σ × Nat) where
  ask state :=
    let (answer, next) := source.ask state.1
    (answer, next, state.2 + 1)

end AddressSource
end SpanBridge
