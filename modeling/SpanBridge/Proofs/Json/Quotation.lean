import SpanBridge.Json.Printer
import SpanBridge.Proofs.Json.Grammar

/-!
# Strings of JSON texts are read as they are spelled

Characters that spell a text and a closing quote are read as that text (`readString_append`), and
whatever is read as a string spells it (`exists_spellsText`).
-/

set_option autoImplicit false
set_option relaxedAutoImplicit false

namespace SpanBridge.Json

/-- A character that needs no escape is read as its own code point. -/
theorem stringUnits_plain {c : Char} (hquote : c ≠ '"') (hbackslash : c ≠ '\\')
    (hcontrol : 0x20 ≤ c.toNat) (opening : Nat) (rest : List Char) :
    stringUnits opening (c :: rest) =
      (stringUnits opening rest >>= fun (units, after) ↦ .ok (c.toNat :: units, after)) := by
  rw [stringUnits, if_neg hbackslash, if_neg (Nat.not_lt.2 hcontrol)]
  · rfl
  · exact fun heq ↦ hquote heq
  · exact fun _ _ _ _ _ heq ↦ absurd heq hbackslash
  · exact fun _ _ heq ↦ absurd heq hbackslash

/-- A letter after a backslash is read as the character for which it stands. -/
theorem stringUnits_letter {letter char : Char} (h : escaped? letter = some char) (opening : Nat)
    (rest : List Char) :
    stringUnits opening ('\\' :: letter :: rest) =
      (stringUnits opening rest >>= fun (units, after) ↦ .ok (char.toNat :: units, after)) := by
  have hletter : letter ≠ 'u' := by
    rintro rfl
    cases h
  rw [stringUnits, if_neg hletter, h]
  · rfl
  · exact fun _ _ _ _ _ heq ↦ absurd heq hletter

/-- The digits of a unit are hexadecimal, so no other character is one of them. -/
theorem ne_of_hexUnit? {a b c d other : Char} {unit : Nat} (h : hexUnit? a b c d = some unit)
    (hother : hexValue? other = none) : ∀ digit ∈ [a, b, c, d], digit ≠ other := by
  rintro digit hdigit rfl
  simp only [List.mem_cons, List.not_mem_nil, or_false] at hdigit
  rcases hdigit with rfl | rfl | rfl | rfl <;> simp [hexUnit?, hother] at h

/-- Four hexadecimal digits are read as the unit with this number. -/
theorem stringUnits_code {a b c d : Char} {unit : Nat} (h : hexUnit? a b c d = some unit)
    (opening : Nat) {rest : List Char} (hrest : rest ≠ []) :
    stringUnits opening ('\\' :: 'u' :: a :: b :: c :: d :: rest) =
      (stringUnits opening rest >>= fun (units, after) ↦ .ok (unit :: units, after)) := by
  cases rest with
  | nil => exact absurd rfl hrest
  | cons first rest =>
    rw [stringUnits]
    · rfl
    · exact h

/-- The units of a string are read as they were spelled, up to the closing quote. -/
theorem stringUnits_append {chars : List Char} {units : List Nat} (h : SpellsUnits chars units)
    (opening : Nat) (rest : List Char) :
    stringUnits opening (chars ++ '"' :: rest) = .ok (units, rest) := by
  induction h with
  | nil => rfl
  | plain hquote hbackslash hcontrol _ ih =>
    rw [List.cons_append, stringUnits_plain hquote hbackslash hcontrol, ih]
    rfl
  | letter hletter _ ih =>
    rw [List.cons_append, List.cons_append, stringUnits_letter hletter, ih]
    rfl
  | code hunit _ ih =>
    simp only [List.cons_append]
    rw [stringUnits_code hunit opening
      (List.append_ne_nil_of_right_ne_nil _ (List.cons_ne_nil _ _)), ih]
    rfl

/-- A string is read as it was spelled. -/
theorem readString_append {chars : List Char} {text : String} (h : SpellsText chars text)
    (rest : List Char) : readString (chars ++ '"' :: rest) = .ok (text, rest) := by
  obtain ⟨units, hunits, rfl⟩ := h
  rw [readString, stringUnits_append hunits]
  rfl

theorem exists_of_cons_units {unit : Nat} {attempt : Except Stop (List Nat × List Char)}
    {units : List Nat} {after : List Char}
    (h : (attempt >>= fun (units, after) ↦ .ok (unit :: units, after)) = .ok (units, after)) :
    ∃ others, attempt = .ok (others, after) ∧ units = unit :: others := by
  obtain ⟨⟨others, rest⟩, hattempt, hpair⟩ := bind_eq_ok_iff.1 h
  obtain ⟨rfl, rfl⟩ := Prod.mk.inj (Except.ok.inj hpair)
  exact ⟨others, hattempt, rfl⟩

theorem exists_spellsUnits {opening : Nat} {chars after : List Char} {units : List Nat}
    (h : stringUnits opening chars = .ok (units, after)) :
    ∃ spelling, SpellsUnits spelling units ∧ chars = spelling ++ '"' :: after := by
  fun_induction stringUnits opening chars generalizing units after with
  | case2 rest =>
    obtain ⟨rfl, rfl⟩ := Prod.mk.inj (Except.ok.inj h)
    exact ⟨[], .nil, rfl⟩
  | case3 a b c d unit first rest hunit ih =>
    obtain ⟨others, hothers, rfl⟩ := exists_of_cons_units h
    obtain ⟨spelling, hspells, hrest⟩ := ih hothers
    exact ⟨_, .code hunit hspells, congrArg (['\\', 'u', a, b, c, d] ++ ·) hrest⟩
  | case6 letter rest _ _ char hletter ih =>
    obtain ⟨others, hothers, rfl⟩ := exists_of_cons_units h
    obtain ⟨spelling, hspells, hrest⟩ := ih hothers
    exact ⟨_, .letter hletter hspells, congrArg (['\\', letter] ++ ·) hrest⟩
  | case10 c rest hquote _ _ hbackslash hcontrol ih =>
    obtain ⟨others, hothers, rfl⟩ := exists_of_cons_units h
    obtain ⟨spelling, hspells, hrest⟩ := ih hothers
    exact ⟨_, .plain hquote hbackslash (Nat.not_lt.1 hcontrol) hspells, congrArg ([c] ++ ·) hrest⟩
  | case1 | case4 | case5 | case7 | case8 | case9 => cases h

theorem exists_spellsText {chars after : List Char} {text : String}
    (h : readString chars = .ok (text, after)) :
    ∃ spelling, SpellsText spelling text ∧ chars = spelling ++ '"' :: after := by
  obtain ⟨⟨units, rest⟩, hunits, hpair⟩ := bind_eq_ok_iff.1 h
  obtain ⟨rfl, rfl⟩ := Prod.mk.inj (Except.ok.inj hpair)
  obtain ⟨spelling, hspells, hchars⟩ := exists_spellsUnits hunits
  exact ⟨spelling, ⟨units, hspells, rfl⟩, hchars⟩

/-! ### What is written is a spelling -/

/-- The units of a character: its code point, or the halves of a pair beyond sixteen bits. -/
def unitsOf (c : Char) : List Nat :=
  if c.toNat < 0x10000 then [c.toNat]
  else [0xd800 + (c.toNat - 0x10000) / 0x400, 0xdc00 + (c.toNat - 0x10000) % 0x400]

theorem charOfUnit_toNat (c : Char) : charOfUnit c.toNat = c := by
  have hvalid : c.toNat.isValidChar := c.valid
  rw [charOfUnit, if_pos hvalid]
  exact Char.ofNat_toNat c

/-- A code point is no half of a pair, so that it stands for itself whatever follows it. -/
theorem joinUnits_toNat_cons (c : Char) (units : List Nat) :
    joinUnits (c.toNat :: units) = c :: joinUnits units := by
  cases units with
  | nil => exact congrArg (· :: []) (charOfUnit_toNat c)
  | cons second rest =>
    have hvalid : c.toNat < 0xd800 ∨ 0xdfff < c.toNat ∧ c.toNat < 0x110000 := c.valid
    have hlone : ¬(0xd800 ≤ c.toNat && c.toNat < 0xdc00 && 0xdc00 ≤ second && second < 0xe000) := by
      simp only [Bool.and_eq_true, decide_eq_true_eq]
      omega
    rw [joinUnits, if_neg hlone, charOfUnit_toNat]

theorem joinUnits_unitsOf_append (c : Char) (units : List Nat) :
    joinUnits (unitsOf c ++ units) = c :: joinUnits units := by
  unfold unitsOf
  split
  · exact joinUnits_toNat_cons c units
  · next hlarge =>
    have hvalid : c.toNat < 0xd800 ∨ 0xdfff < c.toNat ∧ c.toNat < 0x110000 := c.valid
    have hpair : ∀ offset < 0x100000,
        (0xd800 ≤ 0xd800 + offset / 0x400 && 0xd800 + offset / 0x400 < 0xdc00 &&
          0xdc00 ≤ 0xdc00 + offset % 0x400 && 0xdc00 + offset % 0x400 < 0xe000) = true ∧
        0x10000 + (0xd800 + offset / 0x400 - 0xd800) * 0x400 +
          (0xdc00 + offset % 0x400 - 0xdc00) = 0x10000 + offset := by
      intro offset hoffset
      simp only [Bool.and_eq_true, decide_eq_true_eq]
      omega
    obtain ⟨hhalves, hsum⟩ := hpair (c.toNat - 0x10000) (by omega)
    rw [List.cons_append, List.cons_append, List.nil_append, joinUnits, if_pos hhalves, hsum,
      Nat.add_sub_cancel' (Nat.not_lt.1 hlarge), Char.ofNat_toNat]

/-- The units of characters are joined to these characters again. -/
theorem joinUnits_flatMap_unitsOf (chars : List Char) :
    joinUnits (chars.flatMap unitsOf) = chars := by
  induction chars with
  | nil => rfl
  | cons c chars ih => rw [List.flatMap_cons, joinUnits_unitsOf_append, ih]

theorem hexValue?_hexDigit : ∀ digit < 16, hexValue? (Text.hexDigit digit) = some digit := by
  decide

/-- An escape of four digits spells its unit. -/
theorem SpellsUnits.escapeUnit_append {unit : Nat} {chars : List Char} {units : List Nat}
    (h : SpellsUnits chars units) (hunit : unit < 0x10000) :
    SpellsUnits (escapeUnit unit ++ chars) (unit :: units) := by
  have hdigit : ∀ value, hexValue? (Text.hexDigit (value % 16)) = some (value % 16) :=
    fun value ↦ hexValue?_hexDigit _ (Nat.mod_lt _ (by decide))
  have hvalue : ((unit / 16 / 16 / 16 % 16 * 16 + unit / 16 / 16 % 16) * 16 + unit / 16 % 16) * 16 +
      unit % 16 = unit := by
    omega
  refine .code ?_ h
  simp only [hexUnit?, hdigit, Option.bind_eq_bind, Option.bind_some, Option.pure_def, hvalue]

/-- A letter after a backslash stands for the character that it escapes. -/
theorem SpellsUnits.letter_append {letter c : Char} {chars : List Char} {units : List Nat}
    (h : SpellsUnits chars units) (hletter : escaped? letter = some c) (hc : c.toNat < 0x10000) :
    SpellsUnits (['\\', letter] ++ chars) (unitsOf c ++ units) := by
  rw [unitsOf, if_pos hc]
  exact .letter hletter h

/-- What is written for a character spells its units, which are two beyond the first plane. -/
theorem SpellsUnits.escapeChar_append {chars : List Char} {units : List Nat}
    (h : SpellsUnits chars units) (c : Char) :
    SpellsUnits (escapeChar c ++ chars) (unitsOf c ++ units) := by
  have hvalid : c.toNat < 0xd800 ∨ 0xdfff < c.toNat ∧ c.toNat < 0x110000 := c.valid
  unfold escapeChar
  split_ifs with hmark hline hreturn htab hfeed hback hplain hsmall
  · have hmark : c = '"' ∨ c = '\\' := by simpa using hmark
    rcases hmark with rfl | rfl
    · exact h.letter_append rfl (by decide)
    · exact h.letter_append rfl (by decide)
  · subst hline
    exact h.letter_append rfl (by decide)
  · subst hreturn
    exact h.letter_append rfl (by decide)
  · subst htab
    exact h.letter_append rfl (by decide)
  · subst hfeed
    exact h.letter_append rfl (by decide)
  · subst hback
    exact h.letter_append rfl (by decide)
  · have hquote : c ≠ '"' := fun heq ↦ hmark (by simp [heq])
    have hbackslash : c ≠ '\\' := fun heq ↦ hmark (by simp [heq])
    have hascii : 0x20 ≤ c.toNat ∧ c.toNat < 0x7f := by simpa using hplain
    rw [unitsOf, if_pos (by omega)]
    exact .plain hquote hbackslash hascii.1 h
  · rw [unitsOf, if_pos hsmall]
    exact h.escapeUnit_append hsmall
  · rw [unitsOf, if_neg hsmall, List.append_assoc]
    exact (h.escapeUnit_append (by omega)).escapeUnit_append (by omega)

/-- What stands between the quotes of a written text spells the text. -/
theorem spellsText_flatMap_escapeChar (text : String) :
    SpellsText (text.toList.flatMap escapeChar) text := by
  refine ⟨text.toList.flatMap unitsOf, ?_, ?_⟩
  · induction text.toList with
    | nil => exact .nil
    | cons c chars ih => exact ih.escapeChar_append c
  · rw [joinUnits_flatMap_unitsOf, String.ofList_toList]

end SpanBridge.Json
