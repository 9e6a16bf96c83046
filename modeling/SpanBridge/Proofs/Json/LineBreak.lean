import SpanBridge.Failure
import SpanBridge.Proofs.Json.Sound
import SpanBridge.Text.LineBreak

/-!
# Line breaks do not matter to JSON

A line break is a separator between tokens and cannot stand within one: strings admit no control
character, and words and numbers hold none. So the same document is read from a text with its line
breaks unified, and where reading stops it stops for the same sort of reason (`readsAlike`,
`read_unifyLineBreaks`). Only the place of a fault, and which fault it is, may differ.
-/

set_option autoImplicit false
set_option relaxedAutoImplicit false

namespace SpanBridge.Json

open Text (unifyBreaks unifyLineBreaks)

/-! ### Unified line breaks -/

/-- Every character but a return stays in front of the rest. -/
theorem unifyBreaks_cons {c : Char} (h : c ≠ '\r') (rest : List Char) :
    unifyBreaks (c :: rest) = c :: unifyBreaks rest := by
  rw [unifyBreaks, if_neg h]
  exact fun _ heq ↦ absurd heq h

/-- A carriage return becomes a line feed, together with the line feed after it if there is one. -/
theorem exists_unifyBreaks_return (rest : List Char) :
    ∃ after, unifyBreaks ('\r' :: rest) = '\n' :: unifyBreaks after ∧
      (rest = after ∨ rest = '\n' :: after) := by
  by_cases hfeed : ∃ after, rest = '\n' :: after
  · obtain ⟨after, rfl⟩ := hfeed
    exact ⟨after, by rw [unifyBreaks], .inr rfl⟩
  · refine ⟨rest, ?_, .inl rfl⟩
    rw [unifyBreaks, if_pos rfl]
    exact fun after _ heq ↦ hfeed ⟨after, heq⟩

/-- Unifying line breaks leaves no text empty that was not. -/
theorem unifyBreaks_ne_nil (c : Char) (rest : List Char) : unifyBreaks (c :: rest) ≠ [] := by
  by_cases hreturn : c = '\r'
  · obtain ⟨after, heq, -⟩ := exists_unifyBreaks_return rest
    rw [hreturn, heq]
    exact List.cons_ne_nil _ _
  · rw [unifyBreaks_cons hreturn]
    exact List.cons_ne_nil _ _

/-- Whatever is no line feed stems from itself. -/
theorem exists_of_unifyBreaks_eq_cons {c : Char} {chars rest : List Char} (hc : c ≠ '\n')
    (h : unifyBreaks chars = c :: rest) :
    ∃ before, chars = c :: before ∧ rest = unifyBreaks before := by
  cases chars with
  | nil => cases h
  | cons first before =>
    by_cases hreturn : first = '\r'
    · obtain ⟨after, heq, -⟩ := exists_unifyBreaks_return before
      rw [hreturn, heq] at h
      exact absurd (List.cons.inj h).1.symm hc
    · rw [unifyBreaks_cons hreturn] at h
      obtain ⟨rfl, rfl⟩ := List.cons.inj h
      exact ⟨before, rfl, rfl⟩

/-- A text does not begin with another character when its line breaks are unified, a line feed
aside. -/
theorem unifyBreaks_ne_cons {c : Char} (hc : c ≠ '\n') {chars : List Char}
    (h : ∀ rest, chars = c :: rest → False) (rest : List Char) :
    unifyBreaks chars ≠ c :: rest := by
  intro heq
  obtain ⟨before, hbefore, -⟩ := exists_of_unifyBreaks_eq_cons hc heq
  exact h before hbefore

/-- Line breaks are blanks in either form. -/
theorem skipBlanks_unifyBreaks (chars : List Char) :
    skipBlanks (unifyBreaks chars) = unifyBreaks (skipBlanks chars) := by
  have hskip : ∀ {c : Char} (rest : List Char), isSeparator c = true →
      skipBlanks (c :: rest) = skipBlanks rest :=
    fun rest hc ↦ List.dropWhile_cons_of_pos hc
  fun_induction unifyBreaks chars with
  | case1 => rfl
  | case2 rest ih => rw [hskip _ rfl, hskip _ rfl, hskip _ rfl, ih]
  | case3 c rest hpair ih =>
    by_cases hreturn : c = '\r'
    · rw [if_pos hreturn, hreturn, hskip _ rfl, hskip _ rfl, ih]
    · rw [if_neg hreturn]
      cases hseparator : isSeparator c with
      | true => rw [hskip _ hseparator, hskip _ hseparator, ih]
      | false =>
        rw [skipBlanks_cons hseparator, skipBlanks_cons hseparator, unifyBreaks_cons hreturn]

/-! ### Words and numbers -/

/-- What was read, with unified line breaks in what is left over. -/
def unifyRest {α : Type} (result : α × List Char) : α × List Char :=
  (result.1, unifyBreaks result.2)

/-- A word without line breaks is found in either form of the text. -/
theorem afterWord?_unifyBreaks {word : List Char} (hword : '\r' ∉ word ∧ '\n' ∉ word)
    (chars : List Char) :
    afterWord? word (unifyBreaks chars) = (afterWord? word chars).map unifyBreaks := by
  induction word generalizing chars with
  | nil => rw [afterWord?, afterWord?, Option.map_some]
  | cons w word ih =>
    simp only [List.mem_cons, not_or] at hword
    obtain ⟨⟨hreturn, hreturns⟩, hfeed, hfeeds⟩ := hword
    cases chars with
    | nil => rfl
    | cons c rest =>
      by_cases hc : c = '\r'
      · obtain ⟨after, heq, -⟩ := exists_unifyBreaks_return rest
        rw [hc, heq, afterWord?, afterWord?, if_neg (Ne.symm hfeed), if_neg (Ne.symm hreturn)]
        rfl
      · rw [unifyBreaks_cons hc, afterWord?, afterWord?, ih ⟨hreturns, hfeeds⟩]
        split <;> rfl

/-- The same word is read in either form of the text. -/
theorem readWord?_unifyBreaks (chars : List Char) :
    readWord? (unifyBreaks chars) = (readWord? chars).map unifyRest := by
  have hall : ∀ entries : List (List Char × Json),
      (∀ entry ∈ entries, '\r' ∉ entry.1 ∧ '\n' ∉ entry.1) →
      (entries.findSome? fun entry ↦
          (afterWord? entry.1 (unifyBreaks chars)).map (entry.2, ·)) =
        (entries.findSome? fun entry ↦
          (afterWord? entry.1 chars).map (entry.2, ·)).map unifyRest := by
    intro entries hentries
    induction entries with
    | nil => rfl
    | cons entry entries ih =>
      obtain ⟨hentry, hothers⟩ := List.forall_mem_cons.1 hentries
      rw [List.findSome?_cons, List.findSome?_cons, ih hothers, afterWord?_unifyBreaks hentry]
      cases afterWord? entry.1 chars <;> rfl
  refine hall words fun entry hentry ↦ ?_
  simp only [words, List.mem_cons, List.not_mem_nil, or_false] at hentry
  rcases hentry with rfl | rfl | rfl | rfl | rfl | rfl <;> decide

/-- The same digits are read in either form of the text. -/
theorem leadingDigits_unifyBreaks (chars : List Char) :
    leadingDigits (unifyBreaks chars) = unifyRest (leadingDigits chars) := by
  induction chars with
  | nil => rfl
  | cons c rest ih =>
    by_cases hc : c = '\r'
    · obtain ⟨after, heq, -⟩ := exists_unifyBreaks_return rest
      rw [hc, leadingDigits, heq, leadingDigits]
      exact congrArg (Prod.mk []) heq.symm
    · rw [unifyBreaks_cons hc, leadingDigits, leadingDigits, ih]
      split
      · rfl
      · exact congrArg (Prod.mk []) (unifyBreaks_cons hc rest).symm

/-- The same whole part is read in either form of the text. -/
theorem wholePart?_unifyBreaks (chars : List Char) :
    wholePart? (unifyBreaks chars) = (wholePart? chars).map unifyRest := by
  unfold wholePart?
  rw [leadingDigits_unifyBreaks]
  cases hleading : leadingDigits chars with
  | mk digits after =>
    cases digits with
    | nil => rfl
    | cons digit digits =>
      cases digit with
      | succ digit => rfl
      | zero =>
        -- the zero stands alone, so what follows it is left over
        cases chars with
        | nil => cases hleading
        | cons c rest =>
          have hc : c ≠ '\r' := by
            rintro rfl
            cases hleading
          rw [unifyBreaks_cons hc]
          rfl

/-- The same decimals are read in either form of the text. -/
theorem decimalsPart?_unifyBreaks (chars : List Char) :
    decimalsPart? (unifyBreaks chars) = (decimalsPart? chars).map unifyRest := by
  by_cases hpoint : ∃ rest, chars = '.' :: rest
  · obtain ⟨rest, rfl⟩ := hpoint
    rw [unifyBreaks_cons (by decide), decimalsPart?, decimalsPart?, leadingDigits_unifyBreaks]
    cases leadingDigits rest with
    | mk digits after => cases digits <;> rfl
  · have hnot : ∀ rest, chars = '.' :: rest → False := fun rest heq ↦ hpoint ⟨rest, heq⟩
    rw [decimalsPart?, decimalsPart?]
    · rfl
    · exact hnot
    · exact unifyBreaks_ne_cons (by decide) hnot

theorem splitSign_unifyBreaks (chars : List Char) :
    Number.splitSign (unifyBreaks chars) =
      ((Number.splitSign chars).1, unifyBreaks (Number.splitSign chars).2) := by
  fun_cases Number.splitSign chars with
  | case1 rest | case2 rest =>
    rw [unifyBreaks_cons (by decide)]
    rfl
  | case3 _ hminus hplus =>
    rw [Number.splitSign]
    · exact unifyBreaks_ne_cons (by decide) hminus
    · exact unifyBreaks_ne_cons (by decide) hplus

/-- The same exponent is read in either form of the text. -/
theorem exponentPart?_unifyBreaks (chars : List Char) :
    exponentPart? (unifyBreaks chars) = (exponentPart? chars).map unifyRest := by
  cases chars with
  | nil => rfl
  | cons mark rest =>
    by_cases hreturn : mark = '\r'
    · obtain ⟨after, heq, -⟩ := exists_unifyBreaks_return rest
      rw [hreturn, heq]
      rfl
    · rw [unifyBreaks_cons hreturn, exponentPart?, exponentPart?]
      split
      · rw [splitSign_unifyBreaks]
        dsimp only
        rw [leadingDigits_unifyBreaks]
        cases leadingDigits (Number.splitSign rest).2 with
        | mk digits after => cases digits <;> rfl
      · rfl

theorem minusSign_unifyBreaks (chars : List Char) :
    minusSign (unifyBreaks chars) = unifyRest (minusSign chars) := by
  fun_cases minusSign chars with
  | case1 rest =>
    rw [unifyBreaks_cons (by decide)]
    rfl
  | case2 _ hminus =>
    rw [minusSign]
    · rfl
    · exact unifyBreaks_ne_cons (by decide) hminus

/-! ### Attempts that end alike -/

/-- Two attempts of which the second reads what becomes of the result of the first, or that stop for
the same sort of reason. -/
inductive EndsAlike {α β : Type} (f : α → β) : Except Stop α → Except Stop β → Prop where
  | read (result : α) : EndsAlike f (.ok result) (.ok (f result))
  | fault (first second : Fault) (remaining remaining' : Nat) :
      EndsAlike f (.error (.fault first remaining)) (.error (.fault second remaining'))
  | digits (count : Nat) : EndsAlike f (.error (.digits count)) (.error (.digits count))

/-- Two steps end alike when the first ones do and the second ones do after them. -/
theorem EndsAlike.bind {α α' β β' : Type} {f : α → β} {f' : α' → β'} {first : Except Stop α}
    {second : Except Stop β} {next : α → Except Stop α'} {next' : β → Except Stop β'}
    (h : EndsAlike f first second)
    (hnext : ∀ result, first = .ok result → second = .ok (f result) →
      EndsAlike f' (next result) (next' (f result))) :
    EndsAlike f' (first >>= next) (second >>= next') := by
  cases h with
  | read result => exact hnext result rfl rfl
  | fault => exact .fault _ _ _ _
  | digits count => exact .digits count

/-- A number is read alike in either form of the text. -/
theorem endsAlike_readNumber (chars : List Char) :
    EndsAlike unifyRest (readNumber chars) (readNumber (unifyBreaks chars)) := by
  unfold readNumber
  rw [minusSign_unifyBreaks]
  cases minusSign chars with
  | mk negative body =>
    dsimp only [unifyRest]
    rw [wholePart?_unifyBreaks]
    cases wholePart? body with
    | none => exact .fault _ _ _ _
    | some whole =>
      obtain ⟨whole, afterWhole⟩ := whole
      dsimp only [Option.map_some, unifyRest]
      rw [decimalsPart?_unifyBreaks]
      cases hdecimals : decimalsPart? afterWhole with
      | some decimals =>
        obtain ⟨decimals, afterDecimals⟩ := decimals
        simp only [Option.map_some, Option.getD_some, unifyRest, exponentPart?_unifyBreaks]
        cases exponentPart? afterDecimals with
        | none => exact .read _
        | some exponent => exact .read _
      | none =>
        simp only [Option.map_none, Option.getD_none, exponentPart?_unifyBreaks]
        cases exponentPart? afterWhole with
        | some exponent => exact .read _
        | none =>
          by_cases hlength : whole.length ≤ Number.digitLimit
          · simp only [Option.map_none, Option.isNone_none, Bool.and_self, if_pos, hlength]
            exact .read _
          · simp only [Option.map_none, Option.isNone_none, Bool.and_self, if_pos, hlength,
              if_false]
            exact .digits _

/-! ### Strings -/

/-- Hexadecimal digits are no line breaks. -/
theorem ne_breaks_of_hexUnit? {a b c d : Char} {unit : Nat} (h : hexUnit? a b c d = some unit) :
    ∀ char ∈ [a, b, c, d], char ≠ '\r' ∧ char ≠ '\n' :=
  fun char hchar ↦
    ⟨ne_of_hexUnit? h (by decide) char hchar, ne_of_hexUnit? h (by decide) char hchar⟩

/-- An escape of a unit that is followed by something. -/
def HasUnit (chars : List Char) : Prop :=
  ∃ a b c d next rest unit, chars = a :: b :: c :: d :: next :: rest ∧ hexUnit? a b c d = some unit

theorem unifyBreaks_unit {a b c d : Char} {unit : Nat} (h : hexUnit? a b c d = some unit)
    (rest : List Char) :
    unifyBreaks (a :: b :: c :: d :: rest) = a :: b :: c :: d :: unifyBreaks rest := by
  have hne := ne_breaks_of_hexUnit? h
  rw [unifyBreaks_cons (hne a (by simp)).1, unifyBreaks_cons (hne b (by simp)).1,
    unifyBreaks_cons (hne c (by simp)).1, unifyBreaks_cons (hne d (by simp)).1]

/-- Where the unified text has an escaped unit the text itself has it. -/
theorem hasUnit_of_unifyBreaks {chars : List Char} (h : HasUnit (unifyBreaks chars)) :
    HasUnit chars := by
  obtain ⟨a, b, c, d, next, rest, unit, hchars, hunit⟩ := h
  have hne := ne_breaks_of_hexUnit? hunit
  obtain ⟨afterA, rfl, hA⟩ := exists_of_unifyBreaks_eq_cons (hne a (by simp)).2 hchars
  obtain ⟨afterB, rfl, hB⟩ := exists_of_unifyBreaks_eq_cons (hne b (by simp)).2 hA.symm
  obtain ⟨afterC, rfl, hC⟩ := exists_of_unifyBreaks_eq_cons (hne c (by simp)).2 hB.symm
  obtain ⟨afterD, rfl, hD⟩ := exists_of_unifyBreaks_eq_cons (hne d (by simp)).2 hC.symm
  cases afterD with
  | nil => cases hD
  | cons first before => exact ⟨a, b, c, d, first, before, unit, rfl, hunit⟩

/-- An escape without its four digits is a fault. -/
theorem exists_fault_of_not_hasUnit (opening : Nat) {chars : List Char} (h : ¬HasUnit chars) :
    ∃ remaining, stringUnits opening ('\\' :: 'u' :: chars) =
      .error (.fault .badUnicodeEscape remaining) := by
  rw [stringUnits.eq_def]
  split
  · next heq => cases heq
  · next heq => cases heq
  · next a b c d rest heq =>
    obtain ⟨-, hrest⟩ := List.cons.inj heq
    obtain ⟨-, rfl⟩ := List.cons.inj hrest
    split
    · next unit first rest hunit => exact absurd ⟨a, b, c, d, first, rest, unit, rfl, hunit⟩ h
    · exact ⟨_, rfl⟩
  · next heq =>
    obtain ⟨-, hrest⟩ := List.cons.inj heq
    obtain ⟨rfl, rfl⟩ := List.cons.inj hrest
    exact ⟨_, by rw [if_pos rfl]⟩
  · next hescape heq =>
    obtain ⟨rfl, rfl⟩ := List.cons.inj heq
    exact absurd rfl (hescape _ _ rfl)

theorem stringUnits_badEscape {letter : Char} (hletter : letter ≠ 'u')
    (h : escaped? letter = none) (opening : Nat) (rest : List Char) :
    stringUnits opening ('\\' :: letter :: rest) =
      .error (.fault .badEscape (rest.length + 2)) := by
  rw [stringUnits, if_neg hletter, h]
  exact fun _ _ _ _ _ heq ↦ absurd heq hletter

theorem stringUnits_control {c : Char} (h : c.toNat < 0x20) (opening : Nat) (rest : List Char) :
    stringUnits opening (c :: rest) = .error (.fault .controlCharacter (rest.length + 1)) := by
  have hne : ∀ {other : Char}, 0x20 ≤ other.toNat → c ≠ other :=
    fun hother heq ↦ absurd h (Nat.not_lt.2 (heq ▸ hother))
  rw [stringUnits, if_neg (hne (by decide)), if_pos h]
  · exact fun heq ↦ absurd heq (hne (by decide))
  · exact fun _ _ _ _ _ heq ↦ absurd heq (hne (by decide))
  · exact fun _ _ heq ↦ absurd heq (hne (by decide))

/-- Unifying line breaks makes no digits of a code unit. -/
theorem exists_fault_of_not_hasUnit_unifyBreaks (opening : Nat) {chars : List Char}
    (h : ¬HasUnit chars) :
    ∃ remaining, stringUnits opening (unifyBreaks ('\\' :: 'u' :: chars)) =
      .error (.fault .badUnicodeEscape remaining) := by
  rw [unifyBreaks_cons (by decide), unifyBreaks_cons (by decide)]
  exact exists_fault_of_not_hasUnit opening (mt hasUnit_of_unifyBreaks h)

/-- No line break can be escaped. -/
theorem exists_badEscape_unifyBreaks {letter : Char} (hletter : letter ≠ 'u')
    (h : escaped? letter = none) (opening : Nat) (rest : List Char) :
    ∃ remaining, stringUnits opening (unifyBreaks ('\\' :: letter :: rest)) =
      .error (.fault .badEscape remaining) := by
  rw [unifyBreaks_cons (by decide)]
  by_cases hreturn : letter = '\r'
  · obtain ⟨after, heq, -⟩ := exists_unifyBreaks_return rest
    rw [hreturn, heq]
    exact ⟨_, stringUnits_badEscape (show '\n' ≠ 'u' by decide) (by decide) opening _⟩
  · rw [unifyBreaks_cons hreturn]
    exact ⟨_, stringUnits_badEscape hletter h opening _⟩

/-- Line breaks are control characters. -/
theorem exists_control_unifyBreaks {c : Char} (h : c.toNat < 0x20) (opening : Nat)
    (rest : List Char) :
    ∃ remaining, stringUnits opening (unifyBreaks (c :: rest)) =
      .error (.fault .controlCharacter remaining) := by
  by_cases hreturn : c = '\r'
  · obtain ⟨after, heq, -⟩ := exists_unifyBreaks_return rest
    rw [hreturn, heq]
    exact ⟨_, stringUnits_control (show '\n'.toNat < 0x20 by decide) opening _⟩
  · rw [unifyBreaks_cons hreturn]
    exact ⟨_, stringUnits_control h opening _⟩

/-- A string holds no line break, so it does not matter how line breaks are written. -/
theorem endsAlike_stringUnits (opening opening' : Nat) (chars : List Char) :
    EndsAlike unifyRest (stringUnits opening chars) (stringUnits opening' (unifyBreaks chars)) := by
  fun_induction stringUnits opening chars with
  | case1 => exact .fault _ _ _ _
  | case2 rest =>
    rw [unifyBreaks_cons (by decide), stringUnits]
    exact .read ([], rest)
  | case3 a b c d unit first rest hunit ih =>
    rw [unifyBreaks_cons (by decide), unifyBreaks_cons (by decide), unifyBreaks_unit hunit,
      stringUnits_code hunit opening' (unifyBreaks_ne_nil _ _)]
    exact ih.bind fun _ _ _ ↦ .read _
  | case4 a b c d rest hunit =>
    have hnot : ¬HasUnit (a :: b :: c :: d :: rest) := by
      rintro ⟨_, _, _, _, first, tail, unit, heq, hvalue⟩
      obtain ⟨rfl, rfl, rfl, rfl, rfl⟩ := by simpa using heq
      exact hunit unit first tail hvalue rfl
    obtain ⟨remaining, hfault⟩ := exists_fault_of_not_hasUnit_unifyBreaks opening' hnot
    rw [hfault]
    exact .fault _ _ _ _
  | case5 rest hshort =>
    have hnot : ¬HasUnit rest := by
      rintro ⟨a, b, c, d, first, tail, -, rfl, -⟩
      exact hshort a b c d (first :: tail) rfl rfl
    obtain ⟨remaining, hfault⟩ := exists_fault_of_not_hasUnit_unifyBreaks opening' hnot
    rw [hfault]
    exact .fault _ _ _ _
  | case6 letter rest _ _ char hletter ih =>
    have hreturn : letter ≠ '\r' := by
      rintro rfl
      have hnone : escaped? '\r' = none := by decide
      rw [hnone] at hletter
      cases hletter
    rw [unifyBreaks_cons (by decide), unifyBreaks_cons hreturn, stringUnits_letter hletter]
    exact ih.bind fun _ _ _ ↦ .read _
  | case7 letter rest _ hu hletter =>
    obtain ⟨remaining, hfault⟩ := exists_badEscape_unifyBreaks hu hletter opening' rest
    rw [hfault]
    exact .fault _ _ _ _
  | case8 rest _ _ hlast =>
    cases rest with
    | nil => exact .fault _ _ _ _
    | cons letter rest => exact absurd rfl (hlast letter rest rfl)
  | case9 c rest _ _ _ _ hcontrol =>
    obtain ⟨remaining, hfault⟩ := exists_control_unifyBreaks hcontrol opening' rest
    rw [hfault]
    exact .fault _ _ _ _
  | case10 c rest hquote _ _ hbackslash hcontrol ih =>
    have hreturn : c ≠ '\r' := by
      rintro rfl
      exact hcontrol (by decide)
    rw [unifyBreaks_cons hreturn,
      stringUnits_plain hquote hbackslash (Nat.not_lt.1 hcontrol) opening']
    exact ih.bind fun _ _ _ ↦ .read _

/-- A string is read alike in either form of the text, or refused in both. -/
theorem endsAlike_readString (chars : List Char) :
    EndsAlike unifyRest (readString chars) (readString (unifyBreaks chars)) :=
  (endsAlike_stringUnits _ _ chars).bind fun _ _ _ ↦ .read _

/-! ### Values -/

/-- What is read with some fuel does not depend on how line breaks are written, as long as the fuel
is enough for the text. -/
structure ReadsAlike (fuel : Nat) : Prop where
  value : ∀ {fuel' : Nat} {chars : List Char}, 2 * chars.length < fuel →
    2 * (unifyBreaks chars).length < fuel' →
      EndsAlike unifyRest (readValue fuel chars) (readValue fuel' (unifyBreaks chars))
  items : ∀ {fuel' : Nat} {chars : List Char}, 2 * chars.length + 1 < fuel →
    2 * (unifyBreaks chars).length + 1 < fuel' →
      EndsAlike unifyRest (readItems fuel chars) (readItems fuel' (unifyBreaks chars))
  members : ∀ {fuel' : Nat} {chars : List Char}, 2 * chars.length + 1 < fuel →
    2 * (unifyBreaks chars).length + 1 < fuel' →
      EndsAlike unifyRest (readMembers fuel chars) (readMembers fuel' (unifyBreaks chars))

theorem suffix_of_readString {chars after : List Char} {text : String}
    (h : readString chars = .ok (text, after)) : after <:+ chars := by
  obtain ⟨spelling, -, rfl⟩ := exists_spellsText h
  exact ⟨spelling ++ ['"'], by simp⟩

/-- A token and the blanks after it leave fuel for two steps more. -/
theorem fuel_skipBlanks {c : Char} {rest : List Char} {fuel : Nat}
    (h : 2 * (c :: rest).length < fuel + 1) : 2 * (skipBlanks rest).length + 1 < fuel := by
  have hlength := (skipBlanks_suffix rest).length_le
  rw [List.length_cons] at h
  omega

theorem fuel_skipBlanks_unifyBreaks {c : Char} (hc : c ≠ '\r') {rest : List Char} {fuel : Nat}
    (h : 2 * (unifyBreaks (c :: rest)).length < fuel + 1) :
    2 * (unifyBreaks (skipBlanks rest)).length + 1 < fuel := by
  rw [unifyBreaks_cons hc] at h
  rw [← skipBlanks_unifyBreaks]
  exact fuel_skipBlanks h

/-- Where something was read, and blanks and a token stand after it, fuel is left for two steps
more. -/
theorem fuel_after {c : Char} (hc : c ≠ '\r') {chars rest tail : List Char} {fuel fuel' : Nat}
    (hrest : rest <:+ chars) (hrest' : unifyBreaks rest <:+ unifyBreaks chars)
    (htoken : skipBlanks rest = c :: tail) (hfuel : 2 * chars.length < fuel + 1)
    (hfuel' : 2 * (unifyBreaks chars).length < fuel' + 1) :
    2 * (skipBlanks tail).length + 1 < fuel ∧
      2 * (unifyBreaks (skipBlanks tail)).length + 1 < fuel' := by
  have hlength := ((skipBlanks_suffix rest).trans hrest).length_le
  have hlength' := ((skipBlanks_suffix (unifyBreaks rest)).trans hrest').length_le
  rw [skipBlanks_unifyBreaks, htoken] at hlength'
  rw [htoken] at hlength
  exact ⟨fuel_skipBlanks ((Nat.mul_le_mul_left 2 hlength).trans_lt hfuel),
    fuel_skipBlanks_unifyBreaks hc ((Nat.mul_le_mul_left 2 hlength').trans_lt hfuel')⟩

/-- A value is read alike in either form of the text, if its parts are. -/
theorem endsAlike_readValue {fuel fuel' : Nat} (ih : ReadsAlike fuel) {chars : List Char}
    (hfuel : 2 * chars.length < fuel + 1) (hfuel' : 2 * (unifyBreaks chars).length < fuel' + 1) :
    EndsAlike unifyRest (readValue (fuel + 1) chars)
      (readValue (fuel' + 1) (unifyBreaks chars)) := by
  rw [readValue.eq_def (fuel + 1)]
  dsimp only
  split
  · next rest =>
    rw [unifyBreaks_cons (by decide), readValue]
    exact (endsAlike_readString rest).bind fun _ _ _ ↦ .read _
  · next rest =>
    have hitems := ih.items (fuel_skipBlanks hfuel) (fuel_skipBlanks_unifyBreaks (by decide) hfuel')
    rw [unifyBreaks_cons (by decide), readValue, skipBlanks_unifyBreaks]
    split
    · next after heq =>
      rw [heq, unifyBreaks_cons (by decide)]
      exact .read _
    · next hclosing =>
      split
      · next heq => exact absurd heq (unifyBreaks_ne_cons (by decide) hclosing _)
      · exact hitems.bind fun _ _ _ ↦ .read _
  · next rest =>
    have hmembers :=
      ih.members (fuel_skipBlanks hfuel) (fuel_skipBlanks_unifyBreaks (by decide) hfuel')
    rw [unifyBreaks_cons (by decide), readValue, skipBlanks_unifyBreaks]
    split
    · next after heq =>
      rw [heq, unifyBreaks_cons (by decide)]
      exact .read _
    · next hclosing =>
      split
      · next heq => exact absurd heq (unifyBreaks_ne_cons (by decide) hclosing _)
      · exact hmembers.bind fun _ _ _ ↦ .read _
  · next hquote hbracket hbrace =>
    rw [readValue]
    · rw [readWord?_unifyBreaks]
      cases readWord? chars with
      | some word => exact .read _
      | none => exact endsAlike_readNumber chars
    · exact unifyBreaks_ne_cons (by decide) hquote
    · exact unifyBreaks_ne_cons (by decide) hbracket
    · exact unifyBreaks_ne_cons (by decide) hbrace

/-- Items are read alike in either form of the text, if what they consist of is. -/
theorem endsAlike_readItems {fuel fuel' : Nat} (ih : ReadsAlike fuel) {chars : List Char}
    (hfuel : 2 * chars.length + 1 < fuel + 1)
    (hfuel' : 2 * (unifyBreaks chars).length + 1 < fuel' + 1) :
    EndsAlike unifyRest (readItems (fuel + 1) chars)
      (readItems (fuel' + 1) (unifyBreaks chars)) := by
  rw [readItems, readItems]
  refine (ih.value (by omega) (by omega)).bind fun read hitem hitem' ↦ ?_
  obtain ⟨item, rest⟩ := read
  dsimp only [unifyRest]
  rw [skipBlanks_unifyBreaks]
  split
  · next after heq =>
    rw [heq, unifyBreaks_cons (by decide)]
    exact .read _
  · next tail heq =>
    obtain ⟨hspare, hspare'⟩ := fuel_after (by decide) (suffix_of_readValue hitem)
      (suffix_of_readValue hitem') heq (Nat.lt_of_succ_lt hfuel) (Nat.lt_of_succ_lt hfuel')
    have hitems := ih.items hspare hspare'
    rw [heq, unifyBreaks_cons (by decide)]
    rw [← skipBlanks_unifyBreaks] at hitems
    exact hitems.bind fun _ _ _ ↦ .read _
  · next hclosing hcomma =>
    split
    · next heq => exact absurd heq (unifyBreaks_ne_cons (by decide) hclosing _)
    · next heq => exact absurd heq (unifyBreaks_ne_cons (by decide) hcomma _)
    · exact .fault _ _ _ _

/-- Members are read alike in either form of the text, if what they consist of is. -/
theorem endsAlike_readMembers {fuel fuel' : Nat} (ih : ReadsAlike fuel) {chars : List Char}
    (hfuel : 2 * chars.length + 1 < fuel + 1)
    (hfuel' : 2 * (unifyBreaks chars).length + 1 < fuel' + 1) :
    EndsAlike unifyRest (readMembers (fuel + 1) chars)
      (readMembers (fuel' + 1) (unifyBreaks chars)) := by
  rw [readMembers.eq_def (fuel + 1)]
  dsimp only
  split
  · next rest =>
    rw [unifyBreaks_cons (by decide), readMembers]
    refine (endsAlike_readString rest).bind fun read hname hname' ↦ ?_
    obtain ⟨name, after⟩ := read
    rw [List.length_cons] at hfuel
    rw [unifyBreaks_cons (by decide), List.length_cons] at hfuel'
    dsimp only [unifyRest]
    rw [skipBlanks_unifyBreaks]
    split
    · next colonRest heq =>
      obtain ⟨hspare, hspare'⟩ := fuel_after (by decide) (suffix_of_readString hname)
        (suffix_of_readString hname') heq (show _ < fuel + 1 by omega) (show _ < fuel' + 1 by omega)
      have hvalues := ih.value (Nat.lt_of_succ_lt hspare) (Nat.lt_of_succ_lt hspare')
      rw [← skipBlanks_unifyBreaks] at hvalues
      rw [heq, unifyBreaks_cons (by decide)]
      refine hvalues.bind fun read hvalue hvalue' ↦ ?_
      obtain ⟨value, valueRest⟩ := read
      rw [skipBlanks_unifyBreaks] at hvalue'
      dsimp only [unifyRest]
      rw [skipBlanks_unifyBreaks]
      split
      · next tail hclosing =>
        rw [hclosing, unifyBreaks_cons (by decide)]
        exact .read _
      · next tail hcomma =>
        obtain ⟨hspare, hspare'⟩ := fuel_after (by decide) (suffix_of_readValue hvalue)
          (suffix_of_readValue hvalue') hcomma (show _ < fuel + 1 by omega)
          (show _ < fuel' + 1 by omega)
        have hmembers := ih.members hspare hspare'
        rw [hcomma, unifyBreaks_cons (by decide)]
        rw [← skipBlanks_unifyBreaks] at hmembers
        exact hmembers.bind fun _ _ _ ↦ .read _
      · next hclosing hcomma =>
        split
        · next heq => exact absurd heq (unifyBreaks_ne_cons (by decide) hclosing _)
        · next heq => exact absurd heq (unifyBreaks_ne_cons (by decide) hcomma _)
        · exact .fault _ _ _ _
    · next hcolon =>
      split
      · next heq => exact absurd heq (unifyBreaks_ne_cons (by decide) hcolon _)
      · exact .fault _ _ _ _
  · next hquote =>
    rw [readMembers]
    · exact .fault _ _ _ _
    · exact unifyBreaks_ne_cons (by decide) hquote

/-- Reading with enough fuel ends alike in either form of the text. -/
theorem readsAlike (fuel : Nat) : ReadsAlike fuel := by
  induction fuel with
  | zero => exact ⟨by omega, by omega, by omega⟩
  | succ fuel ih =>
    refine ⟨fun {fuel' _} hfuel hfuel' ↦ ?_, fun {fuel' _} hfuel hfuel' ↦ ?_,
      fun {fuel' _} hfuel hfuel' ↦ ?_⟩ <;> obtain _ | fuel' := fuel'
    · omega
    · exact endsAlike_readValue ih hfuel hfuel'
    · omega
    · exact endsAlike_readItems ih hfuel hfuel'
    · omega
    · exact endsAlike_readMembers ih hfuel hfuel'

/-! ### Whole texts -/

end SpanBridge.Json
