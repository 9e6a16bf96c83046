import Mathlib.Tactic
import SpanBridge.Number.Decimal

/-!
# Integers within the digit limit

`WithinLimit` says that an integer has at most `digitLimit` decimal digits. It is a bound on the
magnitude (`withinLimit_iff`), so it passes to anything smaller (`WithinLimit.of_natAbs_le`), and it
decides whether an integer can be written (`writeInteger_eq_ok`). Whatever `readInteger?` reads is
within the limit (`withinLimit_of_readInteger`). A run of digits is read as far as it goes
(`digitRun_append`), so what was written is read back (`readInteger_integerText`).
-/

set_option autoImplicit false
set_option relaxedAutoImplicit false

namespace SpanBridge.Number

/-- An integer that can be written and read. -/
def WithinLimit (n : Int) : Prop := digitCount n ≤ digitLimit

instance (n : Int) : Decidable (WithinLimit n) := inferInstanceAs (Decidable (_ ≤ _))

theorem digitLimit_pos : 0 < digitLimit := by decide

/-- The limit on digits is a limit on the magnitude. -/
theorem withinLimit_iff (n : Int) : WithinLimit n ↔ n.natAbs < 10 ^ digitLimit :=
  Nat.length_toDigits_le_iff (by decide) digitLimit_pos

/-- Integers of no greater magnitude keep within the limit. -/
theorem WithinLimit.of_natAbs_le {n m : Int} (hm : WithinLimit m) (h : n.natAbs ≤ m.natAbs) :
    WithinLimit n :=
  (withinLimit_iff n).2 (lt_of_le_of_lt h ((withinLimit_iff m).1 hm))

/-- A power of ten of few digits is a bound within the limit. -/
theorem withinLimit_of_natAbs_lt_pow {n : Int} {k : Nat} (hk : k ≤ digitLimit)
    (h : n.natAbs < 10 ^ k) : WithinLimit n :=
  (withinLimit_iff n).2 (lt_of_lt_of_le h (Nat.pow_le_pow_right (by decide) hk))

theorem writeInteger_eq_ok {n : Int} (h : WithinLimit n) : writeInteger n = .ok (integerText n) :=
  if_pos h

theorem writeInteger_eq_error {n : Int} (h : ¬WithinLimit n) : writeInteger n = .error .writing :=
  if_neg h

/-! ### Numbers spelled by digits -/

/-- A character of a written number stands for a digit below the base. -/
theorem exists_digitChar_of_mem_toDigits {base number : Nat} (hbase : 1 < base) {c : Char}
    (h : c ∈ Nat.toDigits base number) : ∃ digit < base, c = digit.digitChar := by
  induction number using Nat.strong_induction_on with
  | _ number ih =>
    by_cases hsmall : number < base
    · rw [Nat.toDigits_of_lt_base hsmall, List.mem_singleton] at h
      exact ⟨number, hsmall, h⟩
    · have hle := Nat.not_lt.1 hsmall
      rw [Nat.toDigits_of_base_le hbase hle, List.mem_append, List.mem_singleton] at h
      rcases h with h | rfl
      · exact ih (number / base) (Nat.div_lt_self (by omega) hbase) h
      · exact ⟨number % base, Nat.mod_lt _ (by omega), rfl⟩

theorem isDigit_toDigits (number : Nat) : ∀ c ∈ Nat.toDigits 10 number, c.isDigit = true :=
  fun _ hc ↦ Nat.isDigit_of_mem_toDigits (by decide) (by decide) hc

/-- The digits that follow carry on from the value of those before. -/
theorem ofDigits_append (first second : List Nat) :
    ofDigits (first ++ second) =
      second.foldl (fun value digit ↦ 10 * value + digit) (ofDigits first) := by
  simp [ofDigits]

/-- So many decimal digits spell less than that power of ten. -/
theorem ofDigits_lt {digits : List Nat} (h : ∀ digit ∈ digits, digit < 10) :
    ofDigits digits < 10 ^ digits.length := by
  induction digits using List.reverseRecOn with
  | nil => decide
  | append_singleton digits digit ih =>
    have hrest := ih fun d hd ↦ h d (List.mem_append_left _ hd)
    have hlast := h digit (by simp)
    simp only [ofDigits_append, List.foldl_cons, List.foldl_nil, List.length_append,
      List.length_singleton, pow_succ]
    omega

theorem natAbs_signed (negative : Bool) (magnitude : Nat) :
    (signed negative magnitude).natAbs = magnitude := by
  cases negative <;> simp [signed]

/-- An integer of no more digits than the limit keeps within it. -/
theorem withinLimit_signed_ofDigits {digits : List Nat} (negative : Bool)
    (h : ∀ digit ∈ digits, digit < 10) (hlength : digits.length ≤ digitLimit) :
    WithinLimit (signed negative (ofDigits digits)) :=
  withinLimit_of_natAbs_lt_pow hlength (by rw [natAbs_signed]; exact ofDigits_lt h)

/-! ### What is read is within the limit -/

theorem asciiDigit_lt {c : Char} {digit : Nat} (h : asciiDigit? c = some digit) : digit < 10 := by
  unfold asciiDigit? at h
  split at h
  · next hc =>
    simp only [Bool.and_eq_true, decide_eq_true_eq, Char.le_def, UInt32.le_iff_toNat_le] at hc
    have hvalue : c.toNat - 48 = digit := Option.some.inj h
    have hnine : c.toNat ≤ 57 := hc.2
    omega
  · cases h

theorem moreDigits_lt (chars : List Char) : ∀ digit ∈ (moreDigits chars).1, digit < 10 := by
  fun_induction moreDigits chars with
  | case1 => simp
  | case2 c rest digit hdigit digits after heq ih =>
    rw [heq] at ih
    intro d hd
    rcases List.mem_cons.1 hd with rfl | hd
    · exact asciiDigit_lt hdigit
    · exact ih d hd
  | case3 => simp
  | case4 c rest _ digit hdigit digits after heq ih =>
    rw [heq] at ih
    intro d hd
    rcases List.mem_cons.1 hd with rfl | hd
    · exact asciiDigit_lt hdigit
    · exact ih d hd
  | case5 => simp

theorem digitRun_lt (chars : List Char) : ∀ digit ∈ (digitRun chars).1, digit < 10 := by
  cases chars with
  | nil => simp [digitRun]
  | cons c rest =>
    simp only [digitRun]
    split
    · next digit hdigit =>
      intro d hd
      rcases List.mem_cons.1 hd with rfl | hd
      · exact asciiDigit_lt hdigit
      · exact moreDigits_lt rest d hd
    · simp

/-- What is read as an integer keeps within the limit on digits. -/
theorem withinLimit_of_readInteger {text : String} {n : Int} (h : readInteger? text = some n) :
    WithinLimit n := by
  unfold readInteger? at h
  simp only at h
  have hlt := digitRun_lt (splitSign (trimBlanks (asciiSpelling text.toList))).2
  generalize digitRun (splitSign (trimBlanks (asciiSpelling text.toList))).2 = run at h hlt
  match run, h with
  | (digit :: digits, []), h =>
    simp only at h
    split at h
    · next hlength =>
      obtain rfl := Option.some.inj h
      exact withinLimit_signed_ofDigits _ hlt hlength
    · cases h

/-! ### Writing and reading back -/

theorem toList_integerText (n : Int) :
    (integerText n).toList = (if n < 0 then ['-'] else []) ++ Nat.toDigits 10 n.natAbs := by
  rw [integerText, Int.toString_eq_repr, Int.repr_eq_if]
  by_cases hn : n < 0
  · rw [if_neg (by omega), if_pos hn, String.toList_append, Nat.toList_repr]
    have habs : (-n).toNat = n.natAbs := by omega
    rw [habs]
    rfl
  · rw [if_pos (by omega), if_neg hn, Nat.toList_repr]
    have habs : n.toNat = n.natAbs := by omega
    rw [habs]
    rfl

theorem asciiDigit_of_isDigit {c : Char} (h : c.isDigit = true) :
    asciiDigit? c = some (c.toNat - 48) := by
  simp only [Char.isDigit, Bool.and_eq_true, decide_eq_true_eq] at h
  exact if_pos (by simpa [Char.le_def] using h)

theorem ne_underscore_of_isDigit {c : Char} (h : c.isDigit = true) : c ≠ '_' := by
  rintro rfl
  exact absurd h (by decide)

/-- A text that does not continue a run of digits. -/
def EndsRun (rest : List Char) : Prop := ∀ c ∈ rest.head?, asciiDigit? c = none ∧ c ≠ '_'

theorem endsRun_nil : EndsRun [] := by simp [EndsRun]

/-- A run does not go on over a text that ends it. -/
theorem moreDigits_of_endsRun {rest : List Char} (h : EndsRun rest) :
    moreDigits rest = ([], rest) := by
  cases rest with
  | nil => rfl
  | cons c rest =>
    obtain ⟨hdigit, hunderscore⟩ := h c rfl
    unfold moreDigits
    split
    · next heq => cases heq
    · next heq => exact absurd (List.cons.inj heq).1 hunderscore
    · next first others _ heq =>
      obtain ⟨rfl, rfl⟩ := List.cons.inj heq
      simp [hdigit]

theorem digitRun_of_endsRun {rest : List Char} (h : EndsRun rest) : digitRun rest = ([], rest) := by
  cases rest with
  | nil => rfl
  | cons c rest => simp [digitRun, (h c rfl).1]

/-- A run goes on over digits and no further. -/
theorem moreDigits_append {digits rest : List Char} (hdigits : ∀ c ∈ digits, c.isDigit = true)
    (hrest : EndsRun rest) :
    moreDigits (digits ++ rest) = (digits.map fun c ↦ c.toNat - 48, rest) := by
  induction digits with
  | nil => exact moreDigits_of_endsRun hrest
  | cons c digits ih =>
    have hc := hdigits c List.mem_cons_self
    have hmore := ih fun d hd ↦ hdigits d (List.mem_cons_of_mem _ hd)
    rw [List.cons_append]
    unfold moreDigits
    split
    · next heq => cases heq
    · next heq => exact absurd (List.cons.inj heq).1 (ne_underscore_of_isDigit hc)
    · next first others _ heq =>
      obtain ⟨rfl, rfl⟩ := List.cons.inj heq
      simp [asciiDigit_of_isDigit hc, hmore]

/-- A run of digits is read up to what ends it. -/
theorem digitRun_append {digits rest : List Char} (hdigits : ∀ c ∈ digits, c.isDigit = true)
    (hrest : EndsRun rest) :
    digitRun (digits ++ rest) = (digits.map fun c ↦ c.toNat - 48, rest) := by
  cases digits with
  | nil => exact digitRun_of_endsRun hrest
  | cons c digits =>
    have hmore := moreDigits_append (fun d hd ↦ hdigits d (List.mem_cons_of_mem c hd)) hrest
    simp [digitRun, asciiDigit_of_isDigit (hdigits c List.mem_cons_self), hmore]

theorem digitRun_of_isDigit {chars : List Char} (h : ∀ c ∈ chars, c.isDigit = true) :
    digitRun chars = (chars.map fun c ↦ c.toNat - 48, []) := by
  have hrun := digitRun_append h endsRun_nil
  rwa [List.append_nil] at hrun

/-- The value of the digits of a run is the number they spell. -/
theorem ofDigits_map_toNat (chars : List Char) :
    ofDigits (chars.map fun c ↦ c.toNat - 48) = Nat.ofDigitChars 10 chars 0 := by
  rw [ofDigits, List.foldl_map, Nat.ofDigitChars_eq_foldl]
  rfl

theorem dropWhile_isAsciiBlank {chars : List Char}
    (h : ∀ c ∈ chars, Text.isAsciiBlank c = false) :
    chars.dropWhile Text.isAsciiBlank = chars := by
  cases chars with
  | nil => rfl
  | cons c rest => rw [List.dropWhile_cons_of_neg]; simp [h c (by simp)]

theorem trimBlanks_eq_self {chars : List Char} (h : ∀ c ∈ chars, Text.isAsciiBlank c = false) :
    trimBlanks chars = chars := by
  have hback : ∀ c ∈ chars.reverse, Text.isAsciiBlank c = false :=
    fun c hc ↦ h c (List.mem_reverse.1 hc)
  rw [trimBlanks, dropWhile_isAsciiBlank h, dropWhile_isAsciiBlank hback, List.reverse_reverse]

/-- The characters of a written integer. -/
theorem mem_integerText {n : Int} {c : Char} (h : c ∈ (integerText n).toList) :
    c = '-' ∨ c.isDigit = true := by
  rw [toList_integerText] at h
  rcases List.mem_append.1 h with h | h
  · split at h
    · exact .inl (List.mem_singleton.1 h)
    · cases h
  · exact .inr (isDigit_toDigits _ c h)

theorem toNat_le_of_isDigit {c : Char} (h : c.isDigit = true) : 48 ≤ c.toNat ∧ c.toNat ≤ 57 := by
  simpa [Char.isDigit, UInt32.le_iff_toNat_le] using h

theorem isAsciiBlank_eq_false_of_isDigit {c : Char} (h : c.isDigit = true) :
    Text.isAsciiBlank c = false := by
  obtain ⟨hlow, -⟩ := toNat_le_of_isDigit h
  have hspace : c ≠ ' ' := by
    rintro rfl
    exact absurd hlow (by decide)
  have hreturn : ¬c ≤ '\r' := by
    rw [Char.le_def, UInt32.le_iff_toNat_le]
    have hcode : ('\r' : Char).val.toNat = 13 := rfl
    have hself : c.val.toNat = c.toNat := rfl
    omega
  simp [Text.isAsciiBlank, hspace, hreturn]

theorem asciiSpelling_eq_self {chars : List Char} (h : ∀ c ∈ chars, c.toNat < 0x80) :
    asciiSpelling chars = chars :=
  if_pos (by simpa using h)

theorem splitSign_of_head {c : Char} (hc : c.isDigit = true) (rest : List Char) :
    splitSign (c :: rest) = (false, c :: rest) := by
  unfold splitSign
  split
  · next heq => exact absurd hc (by rw [(List.cons.inj heq).1]; decide)
  · next heq => exact absurd hc (by rw [(List.cons.inj heq).1]; decide)
  · rfl

theorem splitSign_of_isDigit {chars : List Char} (h : ∀ c ∈ chars, c.isDigit = true) :
    splitSign chars = (false, chars) := by
  cases chars with
  | nil => rfl
  | cons c rest => exact splitSign_of_head (h c List.mem_cons_self) rest

theorem signed_natAbs (n : Int) : signed (decide (n < 0)) n.natAbs = n := by
  by_cases hn : n < 0
  · rw [signed, if_pos (by simpa using hn)]
    omega
  · rw [signed, if_neg (by simpa using hn)]
    omega

/-- Only zero is written with a leading zero. -/
theorem eq_zero_of_head?_toDigits {n : Nat} (h : (Nat.toDigits 10 n).head? = some '0') : n = 0 := by
  induction n using Nat.strong_induction_on with
  | _ n ih =>
    by_cases hsmall : n < 10
    · rw [Nat.toDigits_of_lt_base hsmall] at h
      have hzero : ∀ digit < 10, [digit.digitChar].head? = some '0' → digit = 0 := by decide
      exact hzero n hsmall h
    · rw [Nat.toDigits_of_base_le (by decide) (Nat.not_lt.1 hsmall),
        List.head?_append_of_ne_nil _ Nat.toDigits_ne_nil] at h
      have hless := ih (n / 10) (by omega) h
      omega

/-- A written integer splits into its sign and the digits of its magnitude. -/
theorem splitSign_integerText (n : Int) :
    splitSign (integerText n).toList = (decide (n < 0), Nat.toDigits 10 n.natAbs) := by
  rw [toList_integerText]
  by_cases hn : n < 0
  · simp [hn, splitSign]
  · simp [hn, splitSign_of_isDigit (isDigit_toDigits n.natAbs)]

/-- Reading undoes writing, up to the limit. -/
theorem readInteger_integerText_eq (n : Int) :
    readInteger? (integerText n) = if WithinLimit n then some n else none := by
  have hascii : asciiSpelling (integerText n).toList = (integerText n).toList := by
    refine asciiSpelling_eq_self fun c hc ↦ ?_
    rcases mem_integerText hc with rfl | hc
    · decide
    · have hbound := toNat_le_of_isDigit hc
      omega
  have htrim : trimBlanks (integerText n).toList = (integerText n).toList := by
    refine trimBlanks_eq_self fun c hc ↦ ?_
    rcases mem_integerText hc with rfl | hc
    · decide
    · exact isAsciiBlank_eq_false_of_isDigit hc
  have hrun := digitRun_of_isDigit (isDigit_toDigits n.natAbs)
  unfold readInteger?
  rw [hascii, htrim, splitSign_integerText]
  simp only [hrun]
  split
  · next heq => simp at heq
  · next heq => simp at heq
  · next digits _ heq =>
    obtain ⟨rfl, -⟩ := Prod.mk.inj heq
    rw [List.length_map, ofDigits_map_toNat, Nat.ofDigitChars_ten_toDigits, signed_natAbs]
    rfl

theorem readInteger_integerText {n : Int} (h : WithinLimit n) :
    readInteger? (integerText n) = some n := by
  rw [readInteger_integerText_eq, if_pos h]

end SpanBridge.Number
