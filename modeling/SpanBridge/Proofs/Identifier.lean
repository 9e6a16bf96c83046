import SpanBridge.Proofs.Number.DigitLimit
import SpanBridge.Text.LetterCase
import SpanBridge.Trace.Readable

/-!
# Hexadecimal identifiers

The text of an identifier is made of hexadecimal digits in small letters and perhaps a minus sign.
It is not empty (`paddedHex_ne_empty`), and writing it in small letters leaves it as it is
(`toSmall_paddedHex`). No text becomes empty in small letters (`toSmall_ne_empty`). The identifier
can be read from its text (`readIdentifier_paddedHex`), and one that fits the width of its text is
spelled by exactly as many digits (`spellsIdentifier_paddedHex`).
-/

set_option autoImplicit false
set_option relaxedAutoImplicit false

namespace SpanBridge

open Text.LetterCase

/-- A character that is its own small form wherever it stands. -/
def IsSmallForm (c : Char) : Prop := smallOf c = [c] ∧ c ≠ '\u03a3'

instance : DecidablePred IsSmallForm := fun c ↦
  inferInstanceAs (Decidable (smallOf c = [c] ∧ c ≠ '\u03a3'))

/-- Characters that are their own small form stay as they are, whatever stands before them. -/
theorem smallFrom_eq_self {chars : List Char} (h : ∀ c ∈ chars, IsSmallForm c)
    (passed : List Char) : smallFrom passed chars = chars := by
  induction chars generalizing passed with
  | nil => rfl
  | cons c rest ih =>
    obtain ⟨hsmall, hsigma⟩ := h c List.mem_cons_self
    rw [smallFrom, if_neg hsigma, hsmall,
      ih fun other hother ↦ h other (List.mem_cons_of_mem _ hother)]
    rfl

/-- A text of small letters stays as it is. -/
theorem toSmall_eq_self {text : String} (h : ∀ c ∈ text.toList, IsSmallForm c) :
    toSmall text = text := by
  rw [toSmall, smallFrom_eq_self h, String.ofList_toList]

/-- Every character has a small form of one character at least. -/
theorem smallOf_ne_nil (c : Char) : smallOf c ≠ [] := by
  unfold smallOf
  split <;> exact List.cons_ne_nil _ _

/-- A text that is not empty is not empty in small letters. -/
theorem toSmall_ne_empty {text : String} (h : text ≠ "") : toSmall text ≠ "" := by
  have hchars : text.toList ≠ [] := fun hnil ↦ h (String.toList_eq_nil_iff.1 hnil)
  obtain ⟨c, rest, hcons⟩ := List.exists_cons_of_ne_nil hchars
  intro hempty
  rw [toSmall, hcons, smallFrom, String.ofList_eq_empty_iff, List.append_eq_nil_iff] at hempty
  have hform := hempty.1
  split at hform
  · split at hform <;> exact List.cons_ne_nil _ _ hform
  · exact smallOf_ne_nil c hform

/-- Hexadecimal digits are written small. -/
theorem isSmallForm_digitChar : ∀ digit < 16, IsSmallForm digit.digitChar := by
  decide +kernel

/-- The text of an identifier is written small. -/
theorem isSmallForm_of_mem_paddedHex {width : Nat} {number : Int} {c : Char}
    (h : c ∈ (paddedHex width number).toList) : IsSmallForm c := by
  simp only [paddedHex, String.toList_ofList, List.mem_append] at h
  rcases h with (h | h) | h
  · have hminus : c = '-' := by
      split at h
      · exact List.mem_singleton.1 h
      · cases h
    rw [hminus]
    decide +kernel
  · rw [List.eq_of_mem_replicate h]
    exact isSmallForm_digitChar 0 (by decide)
  · obtain ⟨digit, hdigit, rfl⟩ := Number.exists_digitChar_of_mem_toDigits (by decide) h
    exact isSmallForm_digitChar digit hdigit

/-- The text of an identifier is in small letters. -/
theorem toSmall_paddedHex (width : Nat) (number : Int) :
    toSmall (paddedHex width number) = paddedHex width number :=
  toSmall_eq_self fun _ hc ↦ isSmallForm_of_mem_paddedHex hc

/-- The text of an identifier is not empty, whatever the width. -/
theorem paddedHex_ne_empty (width : Nat) (number : Int) : paddedHex width number ≠ "" := by
  intro h
  have hchars := congrArg String.toList h
  simp only [paddedHex, String.toList_ofList, String.toList_empty, List.append_eq_nil_iff] at hchars
  exact Nat.toDigits_ne_nil hchars.2

/-! ### Reading identifiers -/

/-- The hexadecimal digits in small letters. -/
def hexAlphabet : List Char := "0123456789abcdef".toList

/-- The number that hexadecimal digits spell, the most significant first. -/
def ofHex (digits : List Char) : Nat :=
  digits.foldl (fun value digit ↦ 16 * value + hexAlphabet.idxOf digit) 0

/-- The identifier that a text spells, which may have a sign. -/
def readIdentifier (text : String) : Int :=
  let (negative, digits) := Number.splitSign text.toList
  Number.signed negative (ofHex digits)

/-- A text of exactly as many hexadecimal digits spells an identifier. -/
structure SpellsIdentifier (width : Nat) (number : Int) (text : String) : Prop where
  length : text.length = width
  digits : ∀ digit ∈ text.toList, digit ∈ hexAlphabet
  value : ofHex text.toList = number

theorem idxOf_digitChar : ∀ digit < 16, hexAlphabet.idxOf digit.digitChar = digit := by decide

theorem digitChar_mem_hexAlphabet : ∀ digit < 16, digit.digitChar ∈ hexAlphabet := by decide

/-- Digits are read from the first to the last. -/
theorem ofHex_append (first second : List Char) :
    ofHex (first ++ second) =
      second.foldl (fun value digit ↦ 16 * value + hexAlphabet.idxOf digit) (ofHex first) := by
  rw [ofHex, List.foldl_append, ofHex]

/-- Digits spell the number that they are the digits of. -/
theorem ofHex_toDigits (number : Nat) : ofHex (Nat.toDigits 16 number) = number := by
  induction number using Nat.strong_induction_on with
  | _ number ih =>
    by_cases hsmall : number < 16
    · rw [Nat.toDigits_of_lt_base hsmall, ofHex, List.foldl_cons, List.foldl_nil,
        idxOf_digitChar number hsmall, Nat.mul_zero, Nat.zero_add]
    · have hle := Nat.not_lt.1 hsmall
      have hdigit := idxOf_digitChar (number % 16) (Nat.mod_lt _ (by decide))
      rw [Nat.toDigits_of_base_le (by decide) hle, ofHex_append,
        ih (number / 16) (Nat.div_lt_self (by omega) (by decide)), List.foldl_cons, List.foldl_nil,
        hdigit, Nat.div_add_mod]

/-- Zeros in front do not change what digits stand for. -/
theorem ofHex_zeros_append (count : Nat) (digits : List Char) :
    ofHex (List.replicate count '0' ++ digits) = ofHex digits := by
  induction count with
  | zero => rfl
  | succ count ih => exact ih

/-- The text of an identifier has its sign, zeros up to the width, and its digits. -/
theorem toList_paddedHex (width : Nat) (number : Int) :
    (paddedHex width number).toList =
      (if number < 0 then ['-'] else []) ++
        (List.replicate (width - (if number < 0 then ['-'] else []).length -
          (Nat.toDigits 16 number.natAbs).length) '0' ++ Nat.toDigits 16 number.natAbs) := by
  rw [paddedHex, String.toList_ofList, List.append_assoc]

theorem forall_mem_hexAlphabet (count number : Nat) :
    ∀ digit ∈ List.replicate count '0' ++ Nat.toDigits 16 number, digit ∈ hexAlphabet := by
  refine List.forall_mem_append.2 ⟨fun digit hdigit ↦ ?_, fun digit hdigit ↦ ?_⟩
  · rw [List.eq_of_mem_replicate hdigit]
    exact digitChar_mem_hexAlphabet 0 (by decide)
  · obtain ⟨value, hvalue, rfl⟩ := Number.exists_digitChar_of_mem_toDigits (by decide) hdigit
    exact digitChar_mem_hexAlphabet value hvalue

/-- Digits have no sign in front. -/
theorem splitSign_of_mem_hexAlphabet {digits : List Char}
    (h : ∀ digit ∈ digits, digit ∈ hexAlphabet) : Number.splitSign digits = (false, digits) := by
  unfold Number.splitSign
  split
  · exact absurd (h '-' List.mem_cons_self) (by decide)
  · exact absurd (h '+' List.mem_cons_self) (by decide)
  · rfl

/-- Every identifier is read back from its text. -/
theorem readIdentifier_paddedHex (width : Nat) (number : Int) :
    readIdentifier (paddedHex width number) = number := by
  have hsign := Number.signed_natAbs number
  rw [readIdentifier, toList_paddedHex]
  by_cases hnegative : number < 0
  · simp only [if_pos hnegative, List.singleton_append, Number.splitSign, ofHex_zeros_append,
      ofHex_toDigits]
    simpa [hnegative] using hsign
  · simp only [if_neg hnegative, List.nil_append,
      splitSign_of_mem_hexAlphabet (forall_mem_hexAlphabet _ _), ofHex_zeros_append, ofHex_toDigits]
    simpa [hnegative] using hsign

/-- Different identifiers have different texts, since they can be read back. -/
theorem paddedHex_injective (width : Nat) : Function.Injective (paddedHex width) := by
  intro first second h
  rw [← readIdentifier_paddedHex width first, h, readIdentifier_paddedHex]

/-- An identifier that fits the width is spelled by as many digits. -/
theorem spellsIdentifier_paddedHex {width : Nat} {number : Int} (hwidth : 0 < width)
    (hnonneg : 0 ≤ number) (hfits : number < 16 ^ width) :
    SpellsIdentifier width number (paddedHex width number) := by
  have hchars := toList_paddedHex width number
  rw [if_neg hnonneg.not_gt, List.nil_append] at hchars
  have hlength : (Nat.toDigits 16 number.natAbs).length ≤ width := by
    rw [Nat.length_toDigits_le_iff (by decide) hwidth]
    zify
    rwa [abs_of_nonneg hnonneg]
  exact {
    length := by
      rw [← String.length_toList, hchars, List.length_append, List.length_replicate,
        List.length_nil, Nat.sub_zero, Nat.sub_add_cancel hlength]
    digits := hchars ▸ forall_mem_hexAlphabet _ _
    value := by
      rw [hchars, ofHex_zeros_append, ofHex_toDigits, Int.natAbs_of_nonneg hnonneg] }

end SpanBridge
