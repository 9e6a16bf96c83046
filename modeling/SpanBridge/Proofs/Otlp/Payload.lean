import SpanBridge.Proofs.Number.ExactValue
import SpanBridge.Proofs.Otlp.Shaped

/-!
# Payloads of integers and truth values

A payload gives an integer (`GivesInteger`) as a number, as a number in double precision of the same
value or as a text, and it gives a truth value only as that value (`GivesBoolean`). Not every
payload that is read gives what is read: a number between two integers is cut off toward zero, a
truth value counts as zero or one, and anything in place of a truth value counts as true if it is
present (`ConvertsToInteger`, `ConvertsToBoolean`). These are all the exceptions
(`toInteger_eq_ok_iff`). Every other payload in place of an integer is refused as invalid, except
for an infinite number (`toInteger_cases`).
-/

set_option autoImplicit false
set_option relaxedAutoImplicit false

namespace SpanBridge.Otlp

/-- A payload that gives an integer: the number itself, a number in double precision of the same
value, or a text of it. -/
inductive GivesInteger : Json → Int → Prop where
  | number (number : Int) : GivesInteger (.int number) number
  | double {double : Double} {number : Int} (h : double.value? = some (number : ℚ)) :
    GivesInteger (.double double) number
  | text {text : String} {number : Int} (h : Number.readInteger? text = some number) :
    GivesInteger (.str text) number

/-- A payload that counts as an integer that it does not give. -/
inductive ConvertsToInteger : Json → Int → Prop where
  | truth (truth : Bool) : ConvertsToInteger (.bool truth) (if truth then 1 else 0)
  | fraction {double : Double} {value : ℚ} (h : double.value? = some value)
      (hfraction : ∀ number : Int, value ≠ number) :
    ConvertsToInteger (.double double) (Double.towardZero value)

/-- A payload that gives a truth value is that value. -/
inductive GivesBoolean : Json → Bool → Prop where
  | truth (truth : Bool) : GivesBoolean (.bool truth) truth

/-- A payload that counts as a truth value that it does not give: it is true if it is present. -/
inductive ConvertsToBoolean : Json → Bool → Prop where
  | present {payload : Json} (h : ∀ truth, payload ≠ .bool truth) :
    ConvertsToBoolean payload payload.isTruthy

/-- A payload that does not count as an integer that it does not give. -/
def KeepsInteger (payload : Json) : Prop := ∀ number, ¬ConvertsToInteger payload number

/-- A payload that does not count as a truth value that it does not give. -/
def KeepsBoolean (payload : Json) : Prop := ∀ truth, ¬ConvertsToBoolean payload truth

/-- An integer that a payload gives or counts as. -/
def ReadsInteger (payload : Json) (number : Int) : Prop :=
  GivesInteger payload number ∨ ConvertsToInteger payload number

/-- A truth value that a payload gives or counts as. -/
def ReadsBoolean (payload : Json) (truth : Bool) : Prop :=
  GivesBoolean payload truth ∨ ConvertsToBoolean payload truth

/-- A double is read as its whole part. -/
theorem toInteger_double_eq_ok_iff {double : Double} {number : Int} :
    (Json.double double).toInteger = .ok number ↔ double.truncate? = some number := by
  cases double with
  | finite =>
    constructor
    · intro h
      exact congrArg some (Except.ok.inj h)
    · intro h
      exact congrArg Except.ok (Option.some.inj h)
  | _ => exact iff_of_false nofun nofun

/-- A text is read as the integer that it spells. -/
theorem toInteger_str_eq_ok_iff {text : String} {number : Int} :
    (Json.str text).toInteger = .ok number ↔ Number.readInteger? text = some number := by
  rw [Json.toInteger]
  cases Number.readInteger? text <;> simp

/-- A number in double precision counts as its value without the fraction. -/
theorem readsInteger_double_iff {double : Double} {number : Int} :
    ReadsInteger (.double double) number ↔ double.truncate? = some number := by
  rw [Double.truncate?_eq, Option.map_eq_some_iff]
  constructor
  · rintro (hgives | hconverts)
    · cases hgives with
      | double h => exact ⟨number, h, Double.towardZero_intCast number⟩
    · cases hconverts with
      | fraction h => exact ⟨_, h, rfl⟩
  · rintro ⟨value, hvalue, rfl⟩
    -- A whole value is given, and only then is nothing cut off.
    by_cases hwhole : ∃ whole : Int, value = whole
    · obtain ⟨whole, rfl⟩ := hwhole
      rw [Double.towardZero_intCast]
      exact .inl (.double hvalue)
    · exact .inr (.fraction hvalue (not_exists.1 hwhole))

theorem readsInteger_of_toInteger {payload : Json} {number : Int}
    (h : payload.toInteger = .ok number) : ReadsInteger payload number := by
  cases payload with
  | int given =>
    obtain rfl := Except.ok.inj h
    exact .inl (.number given)
  | bool truth =>
    obtain rfl := Except.ok.inj h
    exact .inr (.truth truth)
  | double double => exact readsInteger_double_iff.2 (toInteger_double_eq_ok_iff.1 h)
  | str text => exact .inl (.text (toInteger_str_eq_ok_iff.1 h))
  | _ => cases h

theorem toInteger_of_readsInteger {payload : Json} {number : Int}
    (h : ReadsInteger payload number) : payload.toInteger = .ok number := by
  rcases h with hgives | hconverts
  · cases hgives with
    | number => rfl
    | double hvalue =>
      exact toInteger_double_eq_ok_iff.2 (readsInteger_double_iff.1 (.inl (.double hvalue)))
    | text hread => exact toInteger_str_eq_ok_iff.2 hread
  · cases hconverts with
    | truth => rfl
    | fraction hvalue hfraction =>
      exact toInteger_double_eq_ok_iff.2
        (readsInteger_double_iff.1 (.inr (.fraction hvalue hfraction)))

/-- The integers that are read of a payload are those that it gives or counts as. -/
theorem toInteger_eq_ok_iff {payload : Json} {number : Int} :
    payload.toInteger = .ok number ↔ ReadsInteger payload number :=
  ⟨readsInteger_of_toInteger, toInteger_of_readsInteger⟩

/-- A finite document that is no integer is refused as a bad one. -/
theorem eq_badInteger_of_toInteger {payload : Json} {error : ShapeError}
    (hfinite : IsFinite payload) (h : payload.toInteger = .error error) :
    error = .badInteger payload.toValue.shown := by
  cases payload with
  | double double =>
    cases double with
    | infinite negative => exact absurd rfl (hfinite negative)
    | nan => exact (Except.error.inj h).symm
    | finite => cases h
  | str text =>
    rw [Json.toInteger] at h
    cases hread : Number.readInteger? text with
    | none =>
      rw [hread] at h
      exact (Except.error.inj h).symm
    | some given =>
      rw [hread] at h
      cases h
  | int | bool => cases h
  | _ => exact (Except.error.inj h).symm

/-- A payload in place of an integer is read or refused as invalid, unless it is infinite. -/
theorem toInteger_cases (payload : Json) :
    (∃ number, payload.toInteger = .ok number ∧ ReadsInteger payload number) ∨
      (payload.toInteger = .error (.badInteger payload.toValue.shown) ∧
        ∀ number, ¬ReadsInteger payload number) ∨
      ∃ negative, payload = .double (.infinite negative) ∧
        payload.toInteger = .error .infiniteInteger := by
  cases hinteger : payload.toInteger with
  | ok number => exact .inl ⟨number, rfl, toInteger_eq_ok_iff.1 hinteger⟩
  | error error =>
    refine .inr ?_
    by_cases hfinite : IsFinite payload
    · refine .inl ⟨by rw [eq_badInteger_of_toInteger hfinite hinteger], fun number hread ↦ ?_⟩
      cases hinteger.symm.trans (toInteger_eq_ok_iff.2 hread)
    · simp only [IsFinite, not_forall, not_not] at hfinite
      obtain ⟨negative, rfl⟩ := hfinite
      exact .inr ⟨negative, rfl, hinteger.symm⟩

/-- An integer is given where it is read and kept. -/
theorem givesInteger_iff {payload : Json} {number : Int} :
    GivesInteger payload number ↔ ReadsInteger payload number ∧ KeepsInteger payload := by
  constructor
  · intro h
    refine ⟨.inl h, fun other hother ↦ ?_⟩
    cases hother with
    | truth => cases h
    | fraction hvalue hfraction =>
      cases h with
      | double hwhole => exact hfraction number (Option.some.inj (hvalue.symm.trans hwhole))
  · rintro ⟨hgives | hconverts, hkeeps⟩
    · exact hgives
    · exact absurd hconverts (hkeeps number)

/-- A truth value is given where it is read and kept. -/
theorem givesBoolean_iff {payload : Json} {truth : Bool} :
    GivesBoolean payload truth ↔ ReadsBoolean payload truth ∧ KeepsBoolean payload := by
  constructor
  · intro h
    refine ⟨.inl h, fun other hother ↦ ?_⟩
    cases hother with
    | present hother =>
      cases h
      exact hother truth rfl
  · rintro ⟨hgives | hconverts, hkeeps⟩
    · exact hgives
    · exact absurd hconverts (hkeeps truth)

theorem readsBoolean_isTruthy (payload : Json) : ReadsBoolean payload payload.isTruthy := by
  by_cases h : ∃ truth, payload = .bool truth
  · obtain ⟨truth, rfl⟩ := h
    exact .inl (.truth truth)
  · exact .inr (.present (not_exists.1 h))

end SpanBridge.Otlp
