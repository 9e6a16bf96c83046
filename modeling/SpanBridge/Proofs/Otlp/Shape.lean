import SpanBridge.Otlp.AnyValue
import SpanBridge.Proofs.Json.Bounded

/-!
# Parts of bounded documents

What the requests of `SpanBridge.Otlp.Shape` give for a document whose integers are within the digit
limit: members and items are such documents again, integers are within the limit wherever they come
from (`withinLimit_of_toInteger`), and keys have names (`exists_nameOfKey_of_toKey`).
-/

set_option autoImplicit false
set_option relaxedAutoImplicit false

namespace SpanBridge

/-! ### Numbers -/

/-- The integer part of a number has at most 1024 binary digits. -/
theorem Double.exists_natAbs_lt_of_truncate? {number : Double} {part : Int}
    (h : number.truncate? = some part) : ∃ width ≤ 1024, part.natAbs < 2 ^ width := by
  cases number with
  | finite negative exponent fraction =>
    have hsignificand : Double.significand exponent fraction < 2 ^ 53 := by
      unfold Double.significand
      split
      · exact fraction.isLt.trans (by decide)
      · have := fraction.isLt
        simp only [Double.fractionCount] at this ⊢
        omega
    have hscale : Double.scale exponent - Double.leastScale ≤ 971 := by
      have := exponent.isLt
      simp only [Double.scale, Double.leastScale]
      omega
    have hsigned : ∀ quotient bound : Nat, quotient < bound →
        (if negative = true then -(quotient : Int) else quotient).natAbs < bound := by
      intro quotient bound hlt
      cases negative <;> simpa using hlt
    obtain rfl := Option.some.inj h
    refine ⟨53 + (Double.scale exponent - Double.leastScale), by omega,
      hsigned _ _ ((Nat.div_le_self _ _).trans_lt ?_)⟩
    rw [Nat.pow_add]
    exact Nat.mul_lt_mul_of_pos_right hsignificand (Nat.two_pow_pos _)
  | _ => cases h

/-- The whole part of a double keeps within the limit on digits. -/
theorem Double.withinLimit_of_truncate? {number : Double} {part : Int}
    (h : number.truncate? = some part) : Number.WithinLimit part := by
  obtain ⟨width, hwidth, hlt⟩ := Double.exists_natAbs_lt_of_truncate? h
  exact Number.withinLimit_of_natAbs_lt_pow (hwidth.trans (by decide))
    (hlt.trans_le (Nat.pow_le_pow_left (by decide) _))

namespace Json

/-- An integer that a bounded document stands for is within the digit limit. -/
theorem withinLimit_of_toInteger {document : Json} {number : Int} (h : document.IsBounded)
    (hinteger : document.toInteger = .ok number) : Number.WithinLimit number := by
  cases h with
  | null => cases hinteger
  | bool truth =>
    obtain rfl := Except.ok.inj hinteger
    cases truth <;> decide
  | int hlimit =>
    obtain rfl := Except.ok.inj hinteger
    exact hlimit
  | double number =>
    cases number with
    | finite negative exponent fraction =>
      have htruncate : Double.truncate? (.finite negative exponent fraction) = some number :=
        congrArg some (Except.ok.inj hinteger)
      exact Double.withinLimit_of_truncate? htruncate
    | _ => cases hinteger
  | str text =>
    cases hread : Number.readInteger? text with
    | none => simp [toInteger, hread] at hinteger
    | some value =>
      simp only [toInteger, hread, Option.elim_some, Except.ok.injEq] at hinteger
      exact hinteger ▸ Number.withinLimit_of_readInteger hread
  | arr => cases hinteger
  | obj => cases hinteger

/-! ### Members, items and keys -/

theorem isBounded_of_memberOr {document default member : Json} {name : String}
    (h : document.IsBounded) (hdefault : default.IsBounded)
    (hmember : document.memberOr name default = .ok member) : member.IsBounded := by
  obtain ⟨found, hfound, rfl⟩ := map_eq_ok_iff.1 hmember
  cases document with
  | obj members =>
    obtain rfl := Except.ok.inj hfound
    cases hlookup : members.lookup name with
    | none => exact hdefault
    | some payload => exact h.of_lookup hlookup
  | _ => cases hfound

theorem isBounded_of_elements {document : Json} {items : List Json} (h : document.IsBounded)
    (hitems : document.elements = .ok items) : ∀ item ∈ items, item.IsBounded := by
  cases h with
  | str text =>
    obtain rfl := Except.ok.inj hitems
    intro item hitem
    obtain ⟨c, -, rfl⟩ := List.mem_map.1 hitem
    exact .str _
  | arr hall =>
    obtain rfl := Except.ok.inj hitems
    exact hall
  | obj =>
    obtain rfl := Except.ok.inj hitems
    intro item hitem
    obtain ⟨member, -, rfl⟩ := List.mem_map.1 hitem
    exact .str _
  | _ => cases hitems

/-- A key from a bounded document has a name. -/
theorem exists_nameOfKey_of_toKey {document : Json} {key : Value} (h : document.IsBounded)
    (hkey : document.toKey = .ok key) : ∃ name, nameOfKey key = .ok name := by
  cases h with
  | int hlimit =>
    obtain rfl := Except.ok.inj hkey
    rw [toValue, nameOfKey, Number.writeInteger_eq_ok hlimit]
    exact ⟨_, rfl⟩
  | arr | obj => cases hkey
  | _ =>
    obtain rfl := Except.ok.inj hkey
    exact ⟨_, rfl⟩

end Json

namespace Otlp

theorem ask_eq_ok_iff {α : Type} {answer : Except ShapeError α} {value : α} :
    ask answer = .ok value ↔ answer = .ok value := mapError_eq_ok_iff

theorem ask_ok {α : Type} (value : α) : ask (.ok value) = .ok value := rfl

end Otlp
end SpanBridge
