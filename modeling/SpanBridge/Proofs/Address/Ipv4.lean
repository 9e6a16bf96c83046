import Mathlib.Tactic
import SpanBridge.Address

/-!
# The text of an IPv4 address

An IPv4 address is read from its canonical text and from no other (`parse?_eq_some_iff`). This text
holds digits and points only (`isDigit_or_point_of_mem_text`), so no text of an IPv6 address is one.
-/

set_option autoImplicit false
set_option relaxedAutoImplicit false

namespace SpanBridge

theorem mem_intercalate {c separator : Char} {parts : List (List Char)}
    (h : c ∈ List.intercalate [separator] parts) : c = separator ∨ ∃ part ∈ parts, c ∈ part := by
  induction parts with
  | nil => simp at h
  | cons part parts ih =>
    cases parts with
    | nil => exact .inr ⟨part, by simp, by simpa using h⟩
    | cons other others =>
      rw [List.intercalate_cons_cons, List.append_assoc, List.mem_append, List.mem_append,
        List.mem_singleton] at h
      rcases h with h | rfl | h
      · exact .inr ⟨part, by simp, h⟩
      · exact .inl rfl
      · exact (ih h).imp_right fun ⟨part, hpart, hmem⟩ ↦ ⟨part, List.mem_cons_of_mem _ hpart, hmem⟩

namespace Ipv4

def octetChars (octet : UInt8) : List Char := Nat.toDigits 10 octet.toNat

/-- The decimal digits of an octet are read as that octet. -/
theorem octet?_octetChars (octet : UInt8) : octet? (octetChars octet) = some octet := by
  have hall : ∀ value : Fin 256,
      octet? (octetChars (UInt8.ofFin value)) = some (UInt8.ofFin value) := by
    decide +kernel
  exact hall octet.toFin

theorem point_not_mem_octetChars (octet : UInt8) : '.' ∉ octetChars octet := by
  intro hmem
  have hdigit := Nat.isDigit_of_mem_toDigits (by decide) (by decide) hmem
  exact absurd hdigit (by decide)

theorem toList_text (address : Ipv4) :
    address.text.toList =
      List.intercalate ['.'] ([address.first, address.second, address.third, address.fourth].map
        octetChars) := by
  simp [text, octetChars]

/-- The canonical text of an address is read back as the address. -/
theorem parse?_text (address : Ipv4) : parse? address.text.toList = some address := by
  rw [parse?, toList_text, List.splitOn_intercalate '.' _ (by simp)]
  · simp [octet?_octetChars]
  · intro part hpart
    obtain ⟨octet, -, rfl⟩ := List.mem_map.1 hpart
    exact point_not_mem_octetChars octet

/-! ### What is read -/

/-- A digit character is the one of some number below ten. -/
theorem exists_digitChar_of_isDigit {c : Char} (h : c.isDigit = true) :
    ∃ digit < 10, c = digit.digitChar := by
  have hchars : ∀ digit : Fin 10, Char.ofNat (48 + digit) = digit.val.digitChar := by decide
  simp only [Char.isDigit, ge_iff_le, Bool.and_eq_true, decide_eq_true_eq,
    UInt32.le_iff_toNat_le] at h
  have hlow : 48 ≤ c.toNat := h.1
  have hhigh : c.toNat ≤ 57 := h.2
  refine ⟨c.toNat - 48, by omega, ?_⟩
  calc c
      = Char.ofNat (48 + (c.toNat - 48)) := by rw [Nat.add_sub_cancel' hlow, Char.ofNat_toNat]
    _ = (c.toNat - 48).digitChar := hchars ⟨c.toNat - 48, by omega⟩

/-- Digits without a superfluous zero are the decimal digits of the number that they spell. -/
theorem toDigits_ofDigitChars {chars : List Char} (hne : chars ≠ [])
    (hdigits : ∀ c ∈ chars, c.isDigit = true)
    (hzero : chars.length ≠ 1 → chars.head? ≠ some '0') :
    Nat.toDigits 10 (Nat.ofDigitChars 10 chars 0) = chars := by
  induction chars using List.reverseRecOn with
  | nil => exact absurd rfl hne
  | append_singleton init c ih =>
    obtain ⟨digit, hdigit, rfl⟩ := exists_digitChar_of_isDigit (hdigits c (by simp))
    rw [Nat.ofDigitChars_append, Nat.ofDigitChars_cons_digitChar_of_lt_ten hdigit,
      Nat.ofDigitChars_nil]
    by_cases hinit : init = []
    · subst hinit
      simp [Nat.toDigits_of_lt_base hdigit]
    · have hhead : init.head? ≠ some '0' := by
        rw [← List.head?_append_of_ne_nil _ hinit]
        exact hzero (by simp [hinit])
      have hread := ih hinit (fun c hc ↦ hdigits c (by simp [hc])) fun _ ↦ hhead
      have hpos : 0 < Nat.ofDigitChars 10 init 0 := by
        refine Nat.pos_of_ne_zero fun hvalue ↦ hhead ?_
        rw [← hread, hvalue]
        rfl
      rw [← Nat.toDigits_append_toDigits (by decide) hpos hdigit, hread,
        Nat.toDigits_of_lt_base hdigit]

/-- An octet is read from its own decimal digits only, so leading zeros are refused. -/
theorem octet?_eq_some_iff {chars : List Char} {octet : UInt8} :
    octet? chars = some octet ↔ chars = octetChars octet := by
  refine ⟨fun h ↦ ?_, fun h ↦ h ▸ octet?_octetChars octet⟩
  unfold octet? at h
  split at h
  · cases h
  next hshape =>
  split at h
  · cases h
  next hzero =>
  dsimp only at h
  split at h
  · next hvalue =>
    obtain rfl := Option.some.inj h
    simp only [Bool.or_eq_true, not_or, Bool.not_eq_true, Bool.not_eq_false',
      List.all_eq_true, List.isEmpty_eq_false_iff, decide_eq_false_iff_not] at hshape
    have hdigits := toDigits_ofDigitChars hshape.1.1 hshape.2 (by simpa using hzero)
    rw [Nat.ofDigitChars_eq_foldl] at hdigits
    rw [octetChars, Nat.toUInt8, UInt8.toNat_ofNat_of_lt' (Nat.lt_succ_of_le hvalue), hdigits]
  · cases h

/-- An address is read from its canonical text and from no other. -/
theorem parse?_eq_some_iff {chars : List Char} {address : Ipv4} :
    parse? chars = some address ↔ chars = address.text.toList := by
  refine ⟨fun h ↦ ?_, fun h ↦ h ▸ parse?_text address⟩
  unfold parse? at h
  split at h
  · next a b c d hsplit =>
    simp only [Option.bind_eq_bind, Option.bind_eq_some_iff, octet?_eq_some_iff] at h
    obtain ⟨first, rfl, second, rfl, third, rfl, fourth, rfl, h⟩ := h
    obtain rfl := Option.some.inj h
    rw [toList_text, ← @List.intercalate_splitOn _ chars _ _ '.', hsplit]
    rfl
  · cases h

/-- The text of an address holds digits and points only. -/
theorem isDigit_or_point_of_mem_text {address : Ipv4} {c : Char} (h : c ∈ address.text.toList) :
    c.isDigit = true ∨ c = '.' := by
  rw [toList_text] at h
  rcases mem_intercalate h with rfl | ⟨part, hpart, hc⟩
  · exact .inr rfl
  · obtain ⟨octet, -, rfl⟩ := List.mem_map.1 hpart
    exact .inl (Nat.isDigit_of_mem_toDigits (by decide) (by decide) hc)

end Ipv4
end SpanBridge
