import SpanBridge.Proofs.Json.Grammar
import SpanBridge.Proofs.Number.DigitLimit

/-!
# Numbers of JSON texts are read as they are spelled

Characters that spell a number are read as that number when what follows them cannot continue it
(`yields_readNumber`), unless they spell an integer of too many digits. Conversely, whatever is read
as a number spells it (`exists_spellsNumber`), and reading stops at an integer of too many digits
only where there is one.
-/

set_option autoImplicit false
set_option relaxedAutoImplicit false

namespace SpanBridge.Json

/-- Reading yields a value, or it stops at an integer whose digits are admitted by the grammar but
are too many. -/
def Yields {α : Type} (admits : Nat → Prop) (attempt : Except Stop α) (value : α) : Prop :=
  attempt = .ok value ∨
    ∃ count, admits count ∧ Number.digitLimit < count ∧ attempt = .error (.digits count)

/-- Two steps one after another yield what the second does with what the first yields. -/
theorem Yields.bind {α β : Type} {admits : Nat → Prop} {first : Except Stop α}
    {next : α → Except Stop β} {value : α} {result : β} (h : Yields admits first value)
    (hnext : Yields admits (next value) result) : Yields admits (first >>= next) result := by
  rcases h with rfl | ⟨count, hadmits, hlimit, rfl⟩
  · exact hnext
  · exact .inr ⟨count, hadmits, hlimit, rfl⟩

/-! ### Where digits and numbers end -/

/-- Characters that cannot continue digits. -/
def EndsDigits (rest : List Char) : Prop := ∀ c ∈ rest.head?, Number.asciiDigit? c = none

/-- Characters that cannot continue a number. -/
def EndsNumber (rest : List Char) : Prop :=
  ∀ c ∈ rest.head?, Number.asciiDigit? c = none ∧ c ≠ '.' ∧ c ≠ 'e' ∧ c ≠ 'E'

theorem EndsNumber.endsDigits {rest : List Char} (h : EndsNumber rest) : EndsDigits rest :=
  fun c hc ↦ (h c hc).1

theorem ne_of_asciiDigit {c other : Char} {digit : Nat} (h : Number.asciiDigit? c = some digit)
    (hother : Number.asciiDigit? other = none) : c ≠ other := by
  rintro rfl
  rw [h] at hother
  cases hother

theorem SpellsExponent.endsDigits {chars rest : List Char} {exponent : Option Int}
    (h : SpellsExponent chars exponent) (hrest : EndsNumber rest) : EndsDigits (chars ++ rest) := by
  cases h with
  | absent => exact hrest.endsDigits
  | given hmark =>
    intro c hc
    obtain rfl := Option.some.inj hc
    rcases hmark with rfl | rfl <;> rfl

theorem SpellsExponent.head?_ne_point {chars rest : List Char} {exponent : Option Int}
    (h : SpellsExponent chars exponent) (hrest : EndsNumber rest) :
    (chars ++ rest).head? ≠ some '.' := by
  cases h with
  | absent => exact fun hpoint ↦ (hrest _ hpoint).2.1 rfl
  | given hmark => rcases hmark with rfl | rfl <;> exact nofun

theorem SpellsDecimals.endsDigits {chars rest : List Char} {decimals : Option (List Nat)}
    (h : SpellsDecimals chars decimals) (hrest : EndsDigits rest) : EndsDigits (chars ++ rest) := by
  cases h with
  | absent => exact hrest
  | given =>
    intro c hc
    obtain rfl := Option.some.inj hc
    rfl

/-! ### What is spelled is read -/

/-- Digits are read up to the first character that is none. -/
theorem leadingDigits_append {chars rest : List Char} {digits : List Nat}
    (h : SpellsDigits chars digits) (hrest : EndsDigits rest) :
    leadingDigits (chars ++ rest) = (digits, rest) := by
  induction h with
  | nil =>
    cases rest with
    | nil => rfl
    | cons c rest => rw [List.nil_append, leadingDigits, hrest c rfl]
  | cons hdigit _ ih => rw [List.cons_append, leadingDigits, hdigit, ih]

/-- The digits before a point are read as they were spelled. -/
theorem wholePart?_append {chars rest : List Char} {whole : List Nat}
    (h : SpellsWhole chars whole) (hrest : EndsDigits rest) :
    wholePart? (chars ++ rest) = some (whole, rest) := by
  obtain ⟨hdigits, hne, hzero⟩ := h
  have hleading := leadingDigits_append hdigits hrest
  unfold wholePart?
  rw [hleading]
  cases whole with
  | nil => exact absurd rfl hne
  | cons digit digits =>
    cases digit with
    | succ digit => rfl
    | zero =>
      obtain rfl := (List.cons.inj (hzero rfl)).2
      obtain ⟨c, rfl⟩ : ∃ c, chars = [c] := by
        cases hdigits with
        | cons _ hrest => cases hrest; exact ⟨_, rfl⟩
      rfl

/-- A point with its digits is read as it was spelled. -/
theorem decimalsPart?_append {chars rest : List Char} {decimals : Option (List Nat)}
    (h : SpellsDecimals chars decimals) (hdigits : EndsDigits rest)
    (hpoint : rest.head? ≠ some '.') :
    decimalsPart? (chars ++ rest) = decimals.map (·, rest) := by
  cases h with
  | absent =>
    rw [List.nil_append]
    unfold decimalsPart?
    split
    · exact absurd rfl hpoint
    · rfl
  | @given chars digits hspells hne =>
    rw [List.cons_append, decimalsPart?, leadingDigits_append hspells hdigits]
    cases digits with
    | nil => exact absurd rfl hne
    | cons => rfl

/-- The sign of an exponent is read as it was spelled. -/
theorem splitSign_append {sign chars : List Char} {negative : Bool} (h : SpellsSign sign negative)
    (hminus : chars.head? ≠ some '-') (hplus : chars.head? ≠ some '+') :
    Number.splitSign (sign ++ chars) = (negative, chars) := by
  cases h with
  | plus | minus => rfl
  | absent =>
    rw [List.nil_append]
    unfold Number.splitSign
    split
    · exact absurd rfl hminus
    · exact absurd rfl hplus
    · rfl

theorem SpellsDigits.head?_ne {chars : List Char} {digits : List Nat}
    (h : SpellsDigits chars digits) (hne : digits ≠ []) (rest : List Char) {other : Char}
    (hother : Number.asciiDigit? other = none) : (chars ++ rest).head? ≠ some other := by
  cases h with
  | nil => exact absurd rfl hne
  | cons hdigit => exact fun heq ↦ ne_of_asciiDigit hdigit hother (Option.some.inj heq)

/-- An exponent is read as it was spelled. -/
theorem exponentPart?_append {chars rest : List Char} {exponent : Option Int}
    (h : SpellsExponent chars exponent) (hrest : EndsNumber rest) :
    exponentPart? (chars ++ rest) = exponent.map (·, rest) := by
  cases h with
  | absent =>
    cases rest with
    | nil => rfl
    | cons c rest =>
      have hc := hrest c rfl
      simp [exponentPart?, hc]
  | @given mark sign chars negative digits hmark hsign hspells hne =>
    have hsplit := splitSign_append hsign (hspells.head?_ne hne rest rfl)
      (hspells.head?_ne hne rest rfl)
    have hmark : (decide (mark = 'e') || decide (mark = 'E')) = true := by
      rcases hmark with rfl | rfl <;> rfl
    rw [List.cons_append, exponentPart?, if_pos hmark, List.append_assoc, hsplit]
    dsimp only
    rw [leadingDigits_append hspells hrest.endsDigits]
    cases digits with
    | nil => exact absurd rfl hne
    | cons => rfl

/-- The sign of a number is read as it was spelled. -/
theorem minusSign_append (negative : Bool) {chars : List Char} (h : chars.head? ≠ some '-') :
    minusSign (minusText negative ++ chars) = (negative, chars) := by
  cases negative with
  | true => rfl
  | false =>
    show minusSign chars = _
    unfold minusSign
    split
    · exact absurd rfl h
    · rfl

/-- The parts of a number are found one after another. -/
theorem readNumber_parts {negative : Bool} {wholeChars decimalChars exponentChars rest : List Char}
    {whole : List Nat} {decimals : Option (List Nat)} {exponent : Option Int}
    (hwhole : SpellsWhole wholeChars whole) (hdecimals : SpellsDecimals decimalChars decimals)
    (hexponent : SpellsExponent exponentChars exponent) (hrest : EndsNumber rest) :
    readNumber (minusText negative ++ (wholeChars ++ (decimalChars ++ (exponentChars ++ rest)))) =
      if decimals.isNone && exponent.isNone then
        if whole.length ≤ Number.digitLimit then
          .ok (.int (Number.signed negative (Number.ofDigits whole)), rest)
        else .error (.digits whole.length)
      else .ok (.double (Number.DecimalParts.toDouble negative
        ⟨whole, decimals.getD [], exponent.getD 0⟩), rest) := by
  have hsign := @minusSign_append negative
    (wholeChars ++ (decimalChars ++ (exponentChars ++ rest)))
    (hwhole.1.head?_ne hwhole.2.1 _ rfl)
  have hafterWhole := wholePart?_append hwhole
    (hdecimals.endsDigits (hexponent.endsDigits hrest))
  have hafterDecimals := decimalsPart?_append hdecimals (hexponent.endsDigits hrest)
    (hexponent.head?_ne_point hrest)
  have hafterExponent := exponentPart?_append hexponent hrest
  rw [readNumber, hsign]
  dsimp only
  rw [hafterWhole]
  dsimp only
  rw [hafterDecimals]
  cases hdecimals with
  | given =>
    simp only [Option.map_some, Option.getD_some, hafterExponent]
    cases hexponent <;> rfl
  | absent =>
    simp only [Option.map_none, Option.getD_none, List.nil_append, hafterExponent]
    cases hexponent <;> rfl

/-- A number is read as it was spelled, unless it has too many digits. -/
theorem yields_readNumber {admits : Nat → Prop} {chars rest : List Char} {document : Json}
    (h : SpellsNumber admits chars document) (hrest : EndsNumber rest) :
    Yields admits (readNumber (chars ++ rest)) (document, rest) := by
  cases h with
  | @int negative chars whole hwhole hlength =>
    have hread := @readNumber_parts negative _ _ _ _ _ _ _ hwhole .absent .absent hrest
    rw [List.append_assoc]
    by_cases hlimit : whole.length ≤ Number.digitLimit
    · exact .inl (hread.trans (if_pos hlimit))
    · exact .inr ⟨_, hlength, Nat.lt_of_not_le hlimit, hread.trans (if_neg hlimit)⟩
  | @double negative wholeChars decimalChars exponentChars whole decimals exponent hwhole hdecimals
      hexponent hdouble =>
    have hread := @readNumber_parts negative _ _ _ _ _ _ _ hwhole hdecimals hexponent hrest
    rw [hdouble] at hread
    simp only [List.append_assoc]
    exact .inl hread

/-! ### What is read is spelled -/

theorem exists_spellsDigits (chars : List Char) :
    ∃ spelling, SpellsDigits spelling (leadingDigits chars).1 ∧
      chars = spelling ++ (leadingDigits chars).2 := by
  fun_induction leadingDigits chars with
  | case1 => exact ⟨[], .nil, rfl⟩
  | case2 c rest digit hdigit digits after heq ih =>
    rw [heq] at ih
    obtain ⟨spelling, hspells, hrest⟩ := ih
    exact ⟨c :: spelling, .cons hdigit hspells, congrArg (List.cons c) hrest⟩
  | case3 c rest => exact ⟨[], .nil, rfl⟩

theorem exists_spellsWhole {chars after : List Char} {whole : List Nat}
    (h : wholePart? chars = some (whole, after)) :
    ∃ spelling, SpellsWhole spelling whole ∧ chars = spelling ++ after := by
  obtain ⟨spelling, hspells, hchars⟩ := exists_spellsDigits chars
  unfold wholePart? at h
  split at h
  · cases h
  · next heq =>
    obtain ⟨rfl, rfl⟩ := Prod.mk.inj (Option.some.inj h)
    rw [heq] at hspells
    cases hspells with
    | @cons c _ rest _ hzero _ =>
      refine ⟨[c], ⟨.cons hzero .nil, List.cons_ne_nil _ _, fun _ ↦ rfl⟩, ?_⟩
      rw [hchars]
      rfl
  · next hnil hzero heq =>
    obtain ⟨rfl, rfl⟩ := Prod.mk.inj (Option.some.inj h)
    rw [heq] at hspells hchars
    refine ⟨spelling, ⟨hspells, hnil, fun hhead ↦ ?_⟩, hchars⟩
    obtain ⟨rest, hrest⟩ := List.head?_eq_some_iff.1 hhead
    exact (hzero rest hrest).elim

theorem exists_spellsDecimals (chars : List Char) :
    ∃ spelling, SpellsDecimals spelling ((decimalsPart? chars).map (·.1)) ∧
      chars = spelling ++ ((decimalsPart? chars).map (·.2)).getD chars := by
  unfold decimalsPart?
  split
  · next rest =>
    obtain ⟨spelling, hspells, hrest⟩ := exists_spellsDigits rest
    split
    · exact ⟨[], .absent, rfl⟩
    · next digits after hne heq =>
      rw [heq] at hspells hrest
      exact ⟨'.' :: spelling, .given hspells hne, congrArg (List.cons '.') hrest⟩
  · exact ⟨[], .absent, rfl⟩

theorem exists_spellsSign (chars : List Char) :
    ∃ sign, SpellsSign sign (Number.splitSign chars).1 ∧
      chars = sign ++ (Number.splitSign chars).2 := by
  unfold Number.splitSign
  split
  · exact ⟨['-'], .minus, rfl⟩
  · exact ⟨['+'], .plus, rfl⟩
  · exact ⟨[], .absent, rfl⟩

theorem exists_spellsExponent (chars : List Char) :
    ∃ spelling, SpellsExponent spelling ((exponentPart? chars).map (·.1)) ∧
      chars = spelling ++ ((exponentPart? chars).map (·.2)).getD chars := by
  unfold exponentPart?
  split
  · next mark rest =>
    by_cases hmark : (decide (mark = 'e') || decide (mark = 'E')) = true
    · obtain ⟨sign, hsign, hrest⟩ := exists_spellsSign rest
      obtain ⟨spelling, hspells, hbody⟩ := exists_spellsDigits (Number.splitSign rest).2
      simp only [if_pos hmark]
      split
      · exact ⟨[], .absent, rfl⟩
      · next digits after hne heq =>
        rw [heq] at hspells hbody
        have hmark : mark = 'e' ∨ mark = 'E' := by simpa using hmark
        refine ⟨mark :: (sign ++ spelling), .given hmark hsign hspells hne, ?_⟩
        rw [hbody] at hrest
        simpa using hrest
    · rw [if_neg hmark]
      exact ⟨[], .absent, rfl⟩
  · exact ⟨[], .absent, rfl⟩

theorem eq_minusText_append (chars : List Char) :
    chars = minusText (minusSign chars).1 ++ (minusSign chars).2 := by
  unfold minusSign
  split <;> rfl

theorem exists_spellsNumber {chars after : List Char} {document : Json}
    (h : readNumber chars = .ok (document, after)) :
    ∃ spelling, SpellsNumber (· ≤ Number.digitLimit) spelling document ∧
      chars = spelling ++ after := by
  have hsign := eq_minusText_append chars
  unfold readNumber at h
  dsimp only at h
  split at h
  · cases h
  · next whole afterWhole hwhole =>
    obtain ⟨spelling, hspells, hbody⟩ := exists_spellsWhole hwhole
    split at h
    · split at h
      · next hlength =>
        obtain ⟨rfl, rfl⟩ := Prod.mk.inj (Except.ok.inj h)
        refine ⟨_, .int hspells hlength, ?_⟩
        rw [List.append_assoc, ← hbody]
        exact hsign
      · cases h
    · next hdouble =>
      obtain ⟨decimalChars, hdecimals, hafterWhole⟩ := exists_spellsDecimals afterWhole
      obtain ⟨exponentChars, hexponent, hafterDecimals⟩ :=
        exists_spellsExponent (((decimalsPart? afterWhole).map (·.2)).getD afterWhole)
      obtain ⟨rfl, rfl⟩ := Prod.mk.inj (Except.ok.inj h)
      refine ⟨_, .double hspells hdecimals hexponent ?_, ?_⟩
      · simpa only [Option.isNone_map, Bool.not_eq_true] using hdouble
      · rw [hbody, hafterWhole, hafterDecimals] at hsign
        simpa using hsign

end SpanBridge.Json
