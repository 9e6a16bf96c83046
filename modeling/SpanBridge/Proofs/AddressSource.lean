import Mathlib.Logic.Function.Iterate
import SpanBridge.AddressSource

/-!
# Sources that are asked again and again

`AddressSource.after` is the state of a source after a number of questions, and
`AddressSource.answer` the answer to each of them. A question is answered and leads to the state
before the next one (`ask_after`), and what every question preserves holds throughout
(`after_of_step`).
-/

set_option autoImplicit false
set_option relaxedAutoImplicit false

namespace SpanBridge.AddressSource

variable {σ : Type} (source : AddressSource σ) (state : σ)

/-- The state of a source after a number of questions. -/
def after (questions : Nat) : σ := (fun state ↦ (source.ask state).2)^[questions] state

/-- What a source answers to a question, counted from zero. -/
def answer (question : Nat) : SourceAnswer := (source.ask (source.after state question)).1

@[simp] theorem after_zero : source.after state 0 = state := rfl

theorem after_succ (questions : Nat) :
    source.after state (questions + 1) = (source.ask (source.after state questions)).2 :=
  Function.iterate_succ_apply' _ _ _

theorem ask_after (questions : Nat) :
    source.ask (source.after state questions) =
      (source.answer state questions, source.after state (questions + 1)) := by
  rw [after_succ]
  rfl

/-- What every question preserves holds after any number of them. -/
theorem after_of_step {P : σ → Prop} (hstep : ∀ state, P state → P (source.ask state).2)
    (hstart : P state) (questions : Nat) : P (source.after state questions) := by
  induction questions with
  | zero => exact hstart
  | succ questions ih =>
    rw [after_succ]
    exact hstep _ ih

end SpanBridge.AddressSource
