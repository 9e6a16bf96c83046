import Mathlib.Data.List.TakeWhile
import SpanBridge.Number.Reading
import SpanBridge.Proofs.Number.DigitLimit
import SpanBridge.Proofs.Number.Rounding

/-!
# Printed numbers are read back

A number is printed as the digits of its shortest decimal, laid out with a point or with an
exponent. Reading the text splits it at the same places, so it finds a decimal of the same value
(`spells_layOut`), and this decimal is rounded to the number. So every number is read back from its
text (`readDouble?_text`).
-/

set_option autoImplicit false
set_option relaxedAutoImplicit false

namespace SpanBridge

/-! ### Characters of numbers -/

theorem Number.isDigit_zeros (count : ℕ) : ∀ c ∈ List.replicate count '0', c.isDigit = true := by
  intro c hc
  rw [List.eq_of_mem_replicate hc]
  rfl

namespace Double

/-- The characters of a text for a finite number. -/
def IsNumeric (c : Char) : Prop := c.isDigit = true ∨ c ∈ ['.', 'e', '+', '-']

instance (c : Char) : Decidable (IsNumeric c) :=
  inferInstanceAs (Decidable (c.isDigit = true ∨ c ∈ ['.', 'e', '+', '-']))

theorem forall_isNumeric_zeros (count : Nat) : ∀ c ∈ List.replicate count '0', IsNumeric c :=
  fun c hc ↦ .inl (Number.isDigit_zeros count c hc)

theorem forall_isNumeric_toDigits (number : Nat) :
    ∀ c ∈ Nat.toDigits 10 number, IsNumeric c :=
  fun c hc ↦ .inl (Number.isDigit_toDigits number c hc)

theorem forall_isNumeric_exponentText (width : Nat) (exponent : Int) :
    ∀ c ∈ exponentText width exponent, IsNumeric c := by
  refine List.forall_mem_cons.2 ⟨?_, List.forall_mem_append.2
    ⟨forall_isNumeric_zeros _, forall_isNumeric_toDigits _⟩⟩
  split <;> decide

theorem forall_isNumeric_layOut (format : DoubleFormat) {digits : List Char} (place : Int)
    (h : ∀ c ∈ digits, IsNumeric c) : ∀ c ∈ layOut format digits place, IsNumeric c := by
  have htake : ∀ count, ∀ c ∈ digits.take count, IsNumeric c :=
    fun _ c hc ↦ h c (List.mem_of_mem_take hc)
  have hdrop : ∀ count, ∀ c ∈ digits.drop count, IsNumeric c :=
    fun _ c hc ↦ h c (List.mem_of_mem_drop hc)
  unfold layOut
  dsimp only
  split
  · split
    · simp only [List.forall_mem_cons, List.forall_mem_append]
      exact ⟨by decide, by decide, forall_isNumeric_zeros _, h⟩
    · simp only [List.forall_mem_cons, List.forall_mem_append]
      refine ⟨⟨htake _, forall_isNumeric_zeros _⟩, by decide, ?_⟩
      split
      · exact List.forall_mem_singleton.2 (by decide)
      · exact hdrop _
  · simp only [List.forall_mem_cons, List.forall_mem_append]
    refine ⟨⟨htake 1, ?_⟩, by decide, forall_isNumeric_exponentText _ _⟩
    split
    · exact List.forall_mem_nil _
    · exact List.forall_mem_cons.2 ⟨by decide, hdrop 1⟩

theorem forall_isNumeric_decimal (format : DoubleFormat) (decimal : Decimal) :
    ∀ c ∈ decimal.text format, IsNumeric c := by
  refine forall_isNumeric_layOut format _ fun c hc ↦ ?_
  have hkept := (List.dropWhile_sublist _).subset (List.mem_reverse.1 hc)
  exact forall_isNumeric_toDigits decimal.digits c (List.mem_reverse.1 hkept)

theorem toList_sign (negative : Bool) :
    (if negative then "-" else "").toList = if negative then ['-'] else [] := by
  cases negative <;> rfl

theorem forall_isNumeric_sign (negative : Bool) :
    ∀ c ∈ (if negative then ['-'] else []), IsNumeric c := by
  cases negative with
  | true => exact List.forall_mem_singleton.2 (by decide)
  | false => exact List.forall_mem_nil _

/-- The texts of numbers consist of numeric characters and of the letters of two names. -/
theorem isNumeric_or_mem_of_mem_text {number : Double} {c : Char}
    (h : c ∈ (number.text DoubleFormat.plain).toList) :
    IsNumeric c ∨ c ∈ "NaN".toList ++ "Infinity".toList := by
  cases number with
  | nan => exact .inr (List.mem_append_left _ h)
  | infinite negative =>
    rw [text, String.toList_append, toList_sign, List.mem_append] at h
    exact h.imp (forall_isNumeric_sign negative c) (List.mem_append_right _)
  | finite negative exponent fraction =>
    have hzero : ∀ d ∈ "0.0".toList, IsNumeric d := List.forall_iff_forall_mem.1 (by decide)
    rw [text] at h
    split at h
    · rw [String.toList_append, toList_sign, List.mem_append] at h
      exact .inl (h.elim (forall_isNumeric_sign negative c) (hzero c))
    · rw [String.toList_append, toList_sign, List.mem_append, String.toList_ofList] at h
      exact .inl (h.elim (forall_isNumeric_sign negative c) (forall_isNumeric_decimal _ _ c))

end Double

namespace Number

open Double

/-! ### Placed digits -/

/-- The number that digits spell when the first of them is at a power of ten. -/
def placed (digits : List Char) (place : ℤ) : ℚ :=
  decimalValue (Nat.ofDigitChars 10 digits 0) (place + 1 - digits.length)

/-- Zeros at the end of the digits change no value. -/
theorem placed_append_zeros (digits : List Char) (place : ℤ) (count : ℕ) :
    placed (digits ++ List.replicate count '0') place = placed digits place := by
  have hpower : place + 1 - digits.length =
      (count : ℤ) + (place + 1 - (digits.length + count : ℕ)) := by
    push_cast
    omega
  rw [placed, placed, Nat.ofDigitChars_append, Nat.ofDigitChars_replicate_zero, List.length_append,
    List.length_replicate, decimalValue, decimalValue, hpower, zpow_add₀ (by norm_num),
    zpow_natCast, Nat.cast_mul, Nat.cast_pow, Nat.cast_ofNat]
  ring

/-- Zeros before the digits move their place. -/
theorem placed_zeros_append (digits : List Char) (place : ℤ) (count : ℕ) :
    placed (List.replicate count '0' ++ digits) place = placed digits (place - count) := by
  have hpower : place + 1 - (count + digits.length : ℕ) = place - count + 1 - digits.length := by
    push_cast
    omega
  rw [placed, placed, Nat.ofDigitChars_append, Nat.ofDigitChars_replicate_zero, List.length_append,
    List.length_replicate, hpower, Nat.mul_zero]

variable {digits rest : List Char}

/-! ### Exponents -/

theorem splitSign_exponentText (width : ℕ) (exponent : ℤ) :
    splitSign (exponentText width exponent) =
      (decide (exponent < 0), List.replicate (width - (Nat.toDigits 10 exponent.natAbs).length) '0'
        ++ Nat.toDigits 10 exponent.natAbs) := by
  unfold exponentText
  by_cases h : exponent < 0
  · simp [h, splitSign]
  · simp [h, splitSign]

/-- A sign and digits after the letter are read as an exponent. -/
theorem exponentPart?_of_splitSign {negative : Bool} (hsplit : splitSign rest = (negative, digits))
    (hnonempty : digits ≠ []) (hdigits : ∀ c ∈ digits, c.isDigit = true) :
    exponentPart? ('e' :: rest) = some (signed negative (Nat.ofDigitChars 10 digits 0)) := by
  have hrun := digitRun_of_isDigit hdigits
  rw [← ofDigits_map_toNat]
  obtain ⟨first, others, rfl⟩ := List.exists_cons_of_ne_nil hnonempty
  rw [List.map_cons] at hrun ⊢
  simp only [exponentPart?, decide_true, Bool.true_or, ↓reduceIte, hsplit, hrun]

/-- An exponent is read back. -/
theorem exponentPart?_exponentText (width : ℕ) (exponent : ℤ) :
    exponentPart? ('e' :: exponentText width exponent) = some exponent := by
  rw [exponentPart?_of_splitSign (splitSign_exponentText width exponent)
    (List.append_ne_nil_of_right_ne_nil _ Nat.toDigits_ne_nil)
    (List.forall_mem_append.2 ⟨isDigit_zeros _, isDigit_toDigits _⟩),
    Nat.ofDigitChars_append, Nat.ofDigitChars_replicate_zero, Nat.mul_zero,
    Nat.ofDigitChars_ten_toDigits, signed_natAbs]

/-! ### Decimals -/

/-- The value that the parts of a decimal spell. -/
def DecimalParts.value (parts : DecimalParts) : ℚ :=
  decimalValue (ofDigits (parts.whole ++ parts.decimals)) (parts.exponent - parts.decimals.length)

/-- A text without a sign is read as a decimal of a value. -/
structure SpellsDecimal (chars : List Char) (value : ℚ) : Prop where
  unsigned : splitSign chars = (false, chars)
  read : ∃ parts, decimalParts? chars = some parts ∧ parts.value = value

/-- The parts of a decimal number have the value of their digits at their place. -/
theorem value_of_digits (whole decimals : List Char) (exponent : ℤ) :
    DecimalParts.value ⟨whole.map fun c ↦ c.toNat - 48, decimals.map fun c ↦ c.toNat - 48,
      exponent⟩ = placed (whole ++ decimals) (exponent + whole.length - 1) := by
  have hpower : exponent + whole.length - 1 + 1 - (whole ++ decimals).length =
      exponent - decimals.length := by
    rw [List.length_append]
    push_cast
    omega
  rw [DecimalParts.value, placed, hpower, ← List.map_append, ofDigits_map_toNat, List.length_map]

variable {whole decimals : List Char} {exponent : ℤ}

/-- Digits with a point. -/
theorem spells_of_point (hnonempty : whole ≠ []) (hwhole : ∀ c ∈ whole, c.isDigit = true)
    (hdecimals : ∀ c ∈ decimals, c.isDigit = true) (hends : EndsRun rest)
    (hrest : exponentPart? rest = some exponent) :
    SpellsDecimal (whole ++ '.' :: (decimals ++ rest))
      (placed (whole ++ decimals) (exponent + whole.length - 1)) := by
  have hpoint : EndsRun ('.' :: (decimals ++ rest)) := by
    rintro c hc
    obtain rfl := Option.some.inj hc
    decide
  have hparts : decimalParts? (whole ++ '.' :: (decimals ++ rest)) =
      some ⟨whole.map fun c ↦ c.toNat - 48, decimals.map fun c ↦ c.toNat - 48, exponent⟩ := by
    simp [decimalParts?, digitRun_append hwhole hpoint, digitRun_append hdecimals hends, hnonempty,
      hrest]
  obtain ⟨first, others, rfl⟩ := List.exists_cons_of_ne_nil hnonempty
  exact ⟨splitSign_of_head (hwhole first List.mem_cons_self) _, _, hparts, value_of_digits _ _ _⟩

/-- Digits without a point. -/
theorem spells_of_whole (hnonempty : whole ≠ []) (hwhole : ∀ c ∈ whole, c.isDigit = true)
    (hends : EndsRun rest) (hpoint : rest.head? ≠ some '.')
    (hrest : exponentPart? rest = some exponent) :
    SpellsDecimal (whole ++ rest) (placed whole (exponent + whole.length - 1)) := by
  have hparts : decimalParts? (whole ++ rest) =
      some ⟨whole.map fun c ↦ c.toNat - 48, [], exponent⟩ := by
    simp only [decimalParts?, digitRun_append hwhole hends]
    split
    · exact absurd rfl hpoint
    · simp [hnonempty, hrest]
  have hvalue := value_of_digits whole [] exponent
  rw [List.append_nil] at hvalue
  obtain ⟨first, others, rfl⟩ := List.exists_cons_of_ne_nil hnonempty
  exact ⟨splitSign_of_head (hwhole first List.mem_cons_self) _, _, hparts, hvalue⟩

/-! ### Layouts -/

theorem endsRun_exponent (rest : List Char) : EndsRun ('e' :: rest) := by
  rintro c hc
  obtain rfl := Option.some.inj hc
  decide

/-- Digits behind a point. -/
theorem spells_fraction (hdigits : ∀ c ∈ digits, c.isDigit = true) {place : ℤ}
    (hplace : place < 0) :
    SpellsDecimal ('0' :: '.' :: (List.replicate ((-place).toNat - 1) '0' ++ digits))
      (placed digits place) := by
  have hspells := spells_of_point (List.cons_ne_nil '0' []) (List.forall_mem_singleton.2 rfl)
    (List.forall_mem_append.2 ⟨isDigit_zeros ((-place).toNat - 1), hdigits⟩) endsRun_nil rfl
  have hzeros : ['0'] ++ (List.replicate ((-place).toNat - 1) '0' ++ digits) =
      List.replicate ((-place).toNat - 1 + 1) '0' ++ digits := rfl
  have hfirst : 0 + (['0'].length : ℤ) - 1 - ((-place).toNat - 1 + 1 : ℕ) = place := by
    rw [List.length_singleton]
    omega
  rw [hzeros, placed_zeros_append, hfirst, List.append_nil] at hspells
  exact hspells

/-- Digits around a point, with zeros where there are too few. -/
theorem spells_positional (hdigits : ∀ c ∈ digits, c.isDigit = true) {place : ℤ}
    (hplace : 0 ≤ place) :
    SpellsDecimal (digits.take (place.toNat + 1) ++
        List.replicate (place.toNat + 1 - digits.length) '0'
        ++ '.' :: (if (digits.drop (place.toNat + 1)).isEmpty then ['0']
          else digits.drop (place.toNat + 1)))
      (placed digits place) := by
  have hwhole : ∀ c ∈ digits.take (place.toNat + 1) ++
      List.replicate (place.toNat + 1 - digits.length) '0', c.isDigit = true :=
    List.forall_mem_append.2 ⟨fun c hc ↦ hdigits c (List.mem_of_mem_take hc), isDigit_zeros _⟩
  have hlength : (digits.take (place.toNat + 1) ++
      List.replicate (place.toNat + 1 - digits.length) '0').length = place.toNat + 1 := by
    rw [List.length_append, List.length_take, List.length_replicate]
    omega
  have hfirst : 0 + ((place.toNat + 1 : ℕ) : ℤ) - 1 = place := by omega
  have hdecimals : ∀ c ∈ (if (digits.drop (place.toNat + 1)).isEmpty then ['0']
      else digits.drop (place.toNat + 1)), c.isDigit = true := by
    split
    · exact List.forall_mem_singleton.2 rfl
    · exact fun c hc ↦ hdigits c (List.mem_of_mem_drop hc)
  have hspells := spells_of_point (List.ne_nil_of_length_eq_add_one hlength) hwhole hdecimals
    endsRun_nil rfl
  rw [hlength, hfirst, List.append_nil] at hspells
  convert hspells using 1
  split
  · next hempty =>
    have hle := List.drop_eq_nil_iff.1 (List.isEmpty_iff.1 hempty)
    rw [List.take_of_length_le hle, List.append_assoc, ← List.replicate_succ', placed_append_zeros]
  · next hsome =>
    have hlt : place.toNat + 1 < digits.length := by
      rw [List.isEmpty_iff, List.drop_eq_nil_iff] at hsome
      omega
    rw [Nat.sub_eq_zero_of_le hlt.le, List.replicate_zero, List.append_nil, List.take_append_drop]

/-- Digits with an exponent. -/
theorem spells_exponential (hnonempty : digits ≠ []) (hdigits : ∀ c ∈ digits, c.isDigit = true)
    (width : ℕ) (place : ℤ) :
    SpellsDecimal (digits.take 1 ++ (if (digits.drop 1).isEmpty then [] else '.' :: digits.drop 1)
        ++ 'e' :: exponentText width place) (placed digits place) := by
  have hexponent := exponentPart?_exponentText width place
  have hends := endsRun_exponent (exponentText width place)
  obtain ⟨first, others, rfl⟩ := List.exists_cons_of_ne_nil hnonempty
  have hfirst : ∀ c ∈ [first], c.isDigit = true :=
    List.forall_mem_singleton.2 (hdigits first List.mem_cons_self)
  have hplace : place + ([first].length : ℤ) - 1 = place := by
    rw [List.length_singleton]
    omega
  rw [List.take_one, List.drop_one, List.tail_cons]
  split
  · next hempty =>
    obtain rfl := List.isEmpty_iff.1 hempty
    have hspells := spells_of_whole (List.cons_ne_nil first []) hfirst hends (by simp) hexponent
    rw [hplace] at hspells
    exact hspells
  · have hspells := spells_of_point (List.cons_ne_nil first []) hfirst
      (fun c hc ↦ hdigits c (List.mem_cons_of_mem _ hc)) hends hexponent
    rw [hplace] at hspells
    exact hspells

/-- A layout of digits spells them with the first at its place. -/
theorem spells_layOut (format : DoubleFormat) (hnonempty : digits ≠ [])
    (hdigits : ∀ c ∈ digits, c.isDigit = true) (place : ℤ) :
    SpellsDecimal (layOut format digits place) (placed digits place) := by
  unfold layOut
  dsimp only
  split
  · split
    · next hnegative => exact spells_fraction hdigits hnegative
    · next hnonnegative => exact spells_positional hdigits (not_lt.1 hnonnegative)
  · exact spells_exponential hnonempty hdigits format.exponentDigits place

/-- Digits are the trimmed ones and some zeros. -/
theorem exists_trimmed_append_zeros (digits : List Char) :
    ∃ count, (digits.reverse.dropWhile (· = '0')).reverse ++ List.replicate count '0' = digits := by
  have hzeros := List.eq_replicate_of_mem (l := digits.reverse.takeWhile (· = '0')) fun c hc ↦
    of_decide_eq_true (List.mem_takeWhile_imp hc :)
  refine ⟨(digits.reverse.takeWhile (· = '0')).length, ?_⟩
  rw [← List.reverse_replicate, ← hzeros, ← List.reverse_append,
    List.takeWhile_append_dropWhile, List.reverse_reverse]

/-- The text of a decimal spells its value. -/
theorem spells_text (format : DoubleFormat) {decimal : Decimal} (hdigits : decimal.digits ≠ 0) :
    SpellsDecimal (decimal.text format) (decimalValue decimal.digits decimal.exponent) := by
  obtain ⟨count, hcount⟩ := exists_trimmed_append_zeros (Nat.toDigits 10 decimal.digits)
  have htrimmed : ∀ c ∈ ((Nat.toDigits 10 decimal.digits).reverse.dropWhile (· = '0')).reverse,
      c.isDigit = true := fun c hc ↦
    isDigit_toDigits decimal.digits c (hcount ▸ List.mem_append_left _ hc)
  have hnonempty : ((Nat.toDigits 10 decimal.digits).reverse.dropWhile (· = '0')).reverse ≠ [] := by
    intro hempty
    rw [hempty, List.nil_append] at hcount
    refine hdigits ?_
    rw [← Nat.ofDigitChars_ten_toDigits (n := decimal.digits), ← hcount,
      Nat.ofDigitChars_replicate_zero, Nat.mul_zero]
  have hplace : decimal.exponent + (Nat.toDigits 10 decimal.digits).length - 1 + 1 -
      (Nat.toDigits 10 decimal.digits).length = decimal.exponent := by omega
  -- the zeros that the text leaves out change neither the value nor the place
  have hspells := spells_layOut format hnonempty htrimmed
    (decimal.exponent + (Nat.toDigits 10 decimal.digits).length - 1)
  rw [← placed_append_zeros _ _ count, hcount, placed, hplace, Nat.ofDigitChars_ten_toDigits]
    at hspells
  exact hspells

/-! ### Numbers -/

theorem toNat_lt_of_isNumeric {c : Char} (h : IsNumeric c) : c.toNat < 0x80 := by
  rcases h with h | h
  · exact lt_of_le_of_lt (toNat_le_of_isDigit h).2 (by decide)
  · have hmarks : ∀ mark ∈ ['.', 'e', '+', '-'], mark.toNat < 0x80 :=
      List.forall_iff_forall_mem.1 (by decide)
    exact hmarks c h

theorem isAsciiBlank_eq_false_of_isNumeric {c : Char} (h : IsNumeric c) :
    Text.isAsciiBlank c = false := by
  rcases h with h | h
  · exact isAsciiBlank_eq_false_of_isDigit h
  · have hmarks : ∀ mark ∈ ['.', 'e', '+', '-'], Text.isAsciiBlank mark = false :=
      List.forall_iff_forall_mem.1 (by decide)
    exact hmarks c h

/-- What spells the value of a decimal is read as the number that the decimal is rounded to. -/
theorem readDouble?_of_spells {text : String} {chars : List Char} {decimal : Decimal}
    (h : SpellsDecimal chars (decimalValue decimal.digits decimal.exponent))
    (hnumeric : ∀ c ∈ chars, IsNumeric c) {negative : Bool}
    (htext : text.toList = (if negative then ['-'] else []) ++ chars) :
    readDouble? text = some (ofDecimal negative decimal.digits decimal.exponent) := by
  have hall : ∀ c ∈ text.toList, IsNumeric c := by
    rw [htext]
    exact List.forall_mem_append.2 ⟨forall_isNumeric_sign negative, hnumeric⟩
  have hascii := asciiSpelling_eq_self fun c hc ↦ toNat_lt_of_isNumeric (hall c hc)
  have htrim := trimBlanks_eq_self fun c hc ↦ isAsciiBlank_eq_false_of_isNumeric (hall c hc)
  have hsplit : splitSign text.toList = (negative, chars) := by
    rw [htext]
    cases negative with
    | true => rfl
    | false => exact h.unsigned
  obtain ⟨parts, hparts, hvalue⟩ := h.read
  rw [readDouble?, hascii, htrim, hsplit]
  simp only [hparts, DecimalParts.toDouble]
  rw [ofDecimal_congr negative hvalue]

/-- Every number is read back from its text. -/
theorem readDouble?_text (number : Double) :
    readDouble? (number.text DoubleFormat.plain) = some number := by
  cases number with
  | nan => decide +kernel
  | infinite negative => cases negative <;> decide +kernel
  | finite negative exponent fraction =>
    rw [text]
    split
    · next hzero =>
      simp only [Bool.and_eq_true, decide_eq_true_eq] at hzero
      obtain rfl : exponent = 0 := Fin.ext hzero.1
      obtain rfl : fraction = 0 := Fin.ext hzero.2
      cases negative <;> decide +kernel
    · next hpositive =>
      have hrounded := ofDecimal_shortest negative exponent fraction
      have hdigits : (shortest exponent fraction).digits ≠ 0 := by
        intro hdigits
        rw [ofDecimal, if_pos hdigits] at hrounded
        cases hrounded
        exact hpositive rfl
      rw [readDouble?_of_spells (spells_text .plain hdigits) (forall_isNumeric_decimal _ _)
        (by rw [String.toList_append, toList_sign, String.toList_ofList]), hrounded]

end Number
end SpanBridge
