import Mathlib.Tactic
import SpanBridge.Text.LetterCase

/-!
# Texts that differ in the case of letters

The case of the letters from A to Z makes no difference to the small or the capital form of a text,
whatever other characters it holds (`SameLetters.toSmall_eq`, `SameLetters.toCapital_eq`). The
capital form goes character by character. In the small form the place of a capital sigma matters,
but a letter has a case in either form, so neither of them lets a word end before it.
-/

set_option autoImplicit false
set_option relaxedAutoImplicit false

namespace SpanBridge.Text.LetterCase

/-- Two texts that differ at most in the case of letters from A to Z. -/
def SameLetters (first second : String) : Prop :=
  first.toList.map Char.toLower = second.toList.map Char.toLower

instance : DecidableRel SameLetters := fun first second ↦
  inferInstanceAs (Decidable (first.toList.map Char.toLower = second.toList.map Char.toLower))

/-! ### Characters -/

/-- The letters that have another form in small letters. -/
def capitalLetters : List Char := "ABCDEFGHIJKLMNOPQRSTUVWXYZ".toList

/-- The codes from 65 to 90 are the capital letters. -/
theorem mem_capitalLetters {c : Char} (hfirst : 65 ≤ c.toNat) (hlast : c.toNat ≤ 90) :
    c ∈ capitalLetters := by
  have hall : ∀ place < 26, Char.ofNat (65 + place) ∈ capitalLetters := by decide
  have hmem := hall (c.toNat - 65) (by omega)
  rwa [Nat.add_sub_cancel' hfirst, Char.ofNat_toNat] at hmem

/-- Other characters than capital letters stay as they are. -/
theorem toLower_eq_self {c : Char} (h : c ∉ capitalLetters) : c.toLower = c := by
  refine dif_neg fun ⟨hfirst, hlast⟩ ↦ h (mem_capitalLetters ?_ ?_)
  · exact UInt32.le_iff_toNat_le.1 hfirst
  · exact UInt32.le_iff_toNat_le.1 hlast

/-- What is the same for a capital letter and its small form is the same for every character and its
small form. -/
theorem apply_toLower {α : Type} {f : Char → α}
    (h : (capitalLetters.map fun c ↦ f c.toLower) = capitalLetters.map f) (c : Char) :
    f c.toLower = f c := by
  by_cases hcapital : c ∈ capitalLetters
  · exact List.map_inj_left.1 h c hcapital
  · rw [toLower_eq_self hcapital]

/-- A letter and its small letter have one capital form. -/
theorem capitalOf_toLower (c : Char) : capitalOf c.toLower = capitalOf c :=
  apply_toLower (by decide +kernel) c

/-- A letter and its small letter have one small form. -/
theorem smallOf_toLower (c : Char) : smallOf c.toLower = smallOf c :=
  apply_toLower (by decide +kernel) c

theorem contain_ignorable_toLower (c : Char) :
    ignorableRanges.contain c.toLower = ignorableRanges.contain c :=
  apply_toLower (by decide +kernel) c

theorem contain_cased_toLower (c : Char) :
    casedRanges.contain c.toLower = casedRanges.contain c :=
  apply_toLower (by decide +kernel) c

/-- No ASCII letter is turned into a capital sigma. -/
theorem toLower_eq_sigma_iff (c : Char) : c.toLower = '\u03a3' ↔ c = '\u03a3' := by
  let isSigma : Char → Bool := fun c ↦ decide (c = '\u03a3')
  have hsame : isSigma c.toLower = isSigma c := apply_toLower (by decide) c
  exact decide_eq_decide.1 hsame

/-! ### Texts -/

/-- Small letters in ASCII change nothing about where a word ends. -/
theorem meetsCased_map_toLower (chars : List Char) :
    meetsCased (chars.map Char.toLower) = meetsCased chars := by
  have hignorable : ignorableRanges.contain ∘ Char.toLower = ignorableRanges.contain :=
    funext contain_ignorable_toLower
  rw [meetsCased, meetsCased, List.dropWhile_map, hignorable]
  cases chars.dropWhile ignorableRanges.contain with
  | nil => rfl
  | cons c rest => exact contain_cased_toLower c

/-- The small form of a text in small letters is that of the text. What was passed counts only for
whether it ends in a letter with a case. -/
theorem smallFrom_map_toLower (passed chars : List Char) :
    smallFrom (passed.map Char.toLower) (chars.map Char.toLower) = smallFrom passed chars := by
  induction chars generalizing passed with
  | nil => rfl
  | cons c rest ih =>
    have hrest := ih (c :: passed)
    rw [List.map_cons] at hrest
    simp only [List.map_cons, smallFrom, toLower_eq_sigma_iff, meetsCased_map_toLower,
      smallOf_toLower, hrest]

/-- Small letters in ASCII change no capital form. -/
theorem flatMap_capitalOf_map_toLower (chars : List Char) :
    (chars.map Char.toLower).flatMap capitalOf = chars.flatMap capitalOf := by
  rw [List.flatMap_map]
  exact congrArg (List.flatMap · chars) (funext capitalOf_toLower)

namespace SameLetters

variable {first second : String}

/-- The small form does not depend on the case of letters. -/
theorem toSmall_eq (h : SameLetters first second) : toSmall first = toSmall second := by
  have hchars := congrArg (smallFrom []) h
  rw [← List.map_nil, smallFrom_map_toLower, smallFrom_map_toLower] at hchars
  exact congrArg String.ofList hchars

/-- The capital form does not depend on the case of letters. -/
theorem toCapital_eq (h : SameLetters first second) : toCapital first = toCapital second := by
  have hchars := congrArg (List.flatMap capitalOf) h
  rw [flatMap_capitalOf_map_toLower, flatMap_capitalOf_map_toLower] at hchars
  exact congrArg String.ofList hchars

/-- Texts with the same letters are empty together. -/
theorem eq_empty_iff (h : SameLetters first second) : first = "" ↔ second = "" := by
  have hlength := congrArg List.length h
  rw [List.length_map, List.length_map] at hlength
  rw [← String.toList_eq_nil_iff, ← String.toList_eq_nil_iff, ← List.length_eq_zero_iff, hlength,
    List.length_eq_zero_iff]

end SameLetters

/-- A capital sigma ends a word before a letter in neither case. -/
example : SameLetters "0AΣ" "0aΣ" ∧ toSmall "0AΣ" = "0aς" ∧ toSmall "0aΣF" = "0aσf" := by
  decide +kernel

end SpanBridge.Text.LetterCase
