import SpanBridge.Proofs.Json.Printed

/-!
# Texts of strict JSON

JSON texts are read with three words that the standard does not have: `NaN`, `Infinity` and
`-Infinity`. A text is strict (`Json.IsStrict`) when none of them stands outside its strings. Exact
documents are written strictly in every layout (`isStrict_print`): a written string is over at its
closing quote (`balanced_writeString`), and what stands between strings has no such letters.
-/

set_option autoImplicit false
set_option relaxedAutoImplicit false

namespace SpanBridge.Json

/-- The characters of a text that stand outside its strings, read on from inside a string or from
outside. -/
def outsideStrings : (inside : Bool) → List Char → List Char
  | _, [] => []
  | true, '\\' :: _ :: rest => outsideStrings true rest
  | inside, '"' :: rest => outsideStrings (!inside) rest
  | true, _ :: rest => outsideStrings true rest
  | false, c :: rest => c :: outsideStrings false rest

/-- A JSON text in which no number stands that is not finite. Only the words for these numbers have
a capital N or I outside strings. -/
def IsStrict (text : String) : Prop :=
  IsWellFormed text ∧ ∀ c ∈ outsideStrings false text.toList, c ≠ 'N' ∧ c ≠ 'I'

/-! ### Inside a string -/

/-- A quote leads into a string or out of it. -/
theorem outsideStrings_quote (inside : Bool) (rest : List Char) :
    outsideStrings inside ('"' :: rest) = outsideStrings (!inside) rest := by
  cases inside <;> rfl

/-- Characters that are no quote and no backslash stay in their string. -/
theorem outsideStrings_plain {chars : List Char} (h : ∀ c ∈ chars, c ≠ '"' ∧ c ≠ '\\')
    (rest : List Char) : outsideStrings true (chars ++ rest) = outsideStrings true rest := by
  induction chars with
  | nil => rfl
  | cons c chars ih =>
    obtain ⟨⟨hquote, hbackslash⟩, hchars⟩ := List.forall_mem_cons.1 h
    rw [List.cons_append, outsideStrings, ih hchars]
    · exact fun _ _ heq _ ↦ hbackslash heq
    · exact hquote

theorem outsideStrings_escapeUnit (unit : Nat) (rest : List Char) :
    outsideStrings true (escapeUnit unit ++ rest) = outsideStrings true rest := by
  have hdigits : ∀ digit < 16, Text.hexDigit digit ≠ '"' ∧ Text.hexDigit digit ≠ '\\' := by decide
  rw [escapeUnit, List.cons_append, List.cons_append, outsideStrings]
  refine outsideStrings_plain (fun c hc ↦ ?_) rest
  obtain ⟨digit, hlt, rfl⟩ := mem_hexDigits hc
  exact hdigits digit hlt

/-- What is written for a character stays in its string. -/
theorem outsideStrings_escapeChar (c : Char) (rest : List Char) :
    outsideStrings true (escapeChar c ++ rest) = outsideStrings true rest := by
  unfold escapeChar
  split_ifs with hmark hline hreturn htab hfeed hback hplain hsmall
  · rfl
  · rfl
  · rfl
  · rfl
  · rfl
  · rfl
  · have hmark : c ≠ '"' ∧ c ≠ '\\' := by simpa using hmark
    exact outsideStrings_plain (List.forall_mem_singleton.2 hmark) rest
  · exact outsideStrings_escapeUnit c.toNat rest
  · rw [List.append_assoc, outsideStrings_escapeUnit, outsideStrings_escapeUnit]

/-! ### Between strings -/

/-- A character that stands between strings and in no word for a number that is not finite. -/
def IsQuiet (c : Char) : Prop := c ≠ '"' ∧ c ≠ 'N' ∧ c ≠ 'I'

instance (c : Char) : Decidable (IsQuiet c) :=
  inferInstanceAs (Decidable (c ≠ '"' ∧ c ≠ 'N' ∧ c ≠ 'I'))

/-- Characters in which every string that begins also ends, with quiet ones between the strings. -/
def IsBalanced (chars : List Char) : Prop :=
  ∀ rest, (∀ c ∈ outsideStrings false rest, IsQuiet c) →
    ∀ c ∈ outsideStrings false (chars ++ rest), IsQuiet c

theorem IsBalanced.append {first second : List Char} (h : IsBalanced first)
    (h' : IsBalanced second) : IsBalanced (first ++ second) := by
  intro rest hrest
  rw [List.append_assoc]
  exact h _ (h' rest hrest)

/-- Quiet characters are balanced, since no string begins among them. -/
theorem balanced_of_quiet {chars : List Char} (h : ∀ c ∈ chars, IsQuiet c) : IsBalanced chars := by
  intro rest hrest
  induction chars with
  | nil => exact hrest
  | cons c chars ih =>
    obtain ⟨hquiet, hchars⟩ := List.forall_mem_cons.1 h
    rw [List.cons_append, outsideStrings]
    · exact List.forall_mem_cons.2 ⟨hquiet, ih hchars⟩
    · exact hquiet.1

/-- A written string is balanced: quotes within it are escaped. -/
theorem balanced_writeString (text : String) : IsBalanced (writeString text) := by
  intro rest hrest
  have hinside : ∀ chars : List Char,
      outsideStrings true (chars.flatMap escapeChar ++ ('"' :: rest)) =
        outsideStrings false rest := by
    intro chars
    induction chars with
    | nil => exact outsideStrings_quote true rest
    | cons c chars ih =>
      rw [List.flatMap_cons, List.append_assoc, outsideStrings_escapeChar, ih]
  have hwritten : writeString text ++ rest =
      '"' :: (text.toList.flatMap escapeChar ++ ('"' :: rest)) := by
    simp [writeString]
  rw [hwritten, outsideStrings_quote, Bool.not_false, hinside]
  exact hrest

theorem isQuiet_of_isSeparator {c : Char} (h : isSeparator c = true) : IsQuiet c := by
  simp only [isSeparator, Bool.or_eq_true, decide_eq_true_eq] at h
  rcases h with ((rfl | rfl) | rfl) | rfl <;> decide

theorem balanced_of_isBlanks {blanks : List Char} (h : IsBlanks blanks) : IsBalanced blanks :=
  balanced_of_quiet fun c hc ↦ isQuiet_of_isSeparator (h c hc)

theorem balanced_separator {separator : Char} (hseparator : IsQuiet separator)
    {blanks : List Char} (h : IsBlanks blanks) : IsBalanced (separator :: blanks) :=
  (balanced_of_quiet (List.forall_mem_singleton.2 hseparator)).append (balanced_of_isBlanks h)

/-! ### Written documents -/

section Layout

variable {layout : Layout}

theorem balanced_joinItems (hlayout : layout.IsSeparating) {level : Nat} {texts : List (List Char)}
    (h : ∀ text ∈ texts, IsBalanced text) : IsBalanced (joinItems layout level texts) := by
  obtain ⟨blanks, hblanks, hseparator⟩ := hlayout.items
  have hbreak := balanced_of_isBlanks (layout.isBlanks_lineBreak level)
  fun_induction joinItems layout level texts with
  | case1 => exact fun _ hrest ↦ hrest
  | case2 text => exact hbreak.append (h text List.mem_cons_self)
  | case3 text texts _ ih =>
    rw [hseparator]
    exact ((hbreak.append (h text List.mem_cons_self)).append
      (balanced_separator (by decide) hblanks)).append
        (ih fun other hother ↦ h other (List.mem_cons_of_mem _ hother))

/-- Brackets around balanced texts leave them balanced. -/
theorem balanced_bracketed (hlayout : layout.IsSeparating) {level : Nat} {opening closing : Char}
    (hopening : IsQuiet opening) (hclosing : IsQuiet closing) {texts : List (List Char)}
    (h : ∀ text ∈ texts, IsBalanced text) :
    IsBalanced (bracketed layout level opening closing texts) := by
  have hopening := balanced_of_quiet (List.forall_mem_singleton.2 hopening)
  have hclosing := balanced_of_quiet (List.forall_mem_singleton.2 hclosing)
  unfold bracketed
  split
  · exact hopening.append hclosing
  · exact ((hopening.append (balanced_joinItems hlayout h)).append
      (balanced_of_isBlanks (layout.isBlanks_lineBreak level))).append hclosing

theorem balanced_toString (number : Int) : IsBalanced (toString number).toList := by
  refine balanced_of_quiet fun c hc ↦ ?_
  rcases Number.mem_integerText hc with rfl | hdigit
  · decide
  · refine ⟨?_, ?_, ?_⟩ <;> rintro rfl <;> exact absurd hdigit (by decide)

/-- Every exact document is written as balanced characters. -/
theorem balanced_write (hlayout : layout.IsSeparating) {document : Json} (h : document.IsExact)
    (level : Nat) : IsBalanced (write layout level document) := by
  induction h generalizing level with
  | null =>
    refine balanced_of_quiet ?_
    simp [write, IsQuiet]
  | bool truth =>
    refine balanced_of_quiet ?_
    cases truth with
    | true => simp [write, IsQuiet]
    | false => simp [write, IsQuiet]
  | int => exact balanced_toString _
  | str text => exact balanced_writeString text
  | arr _ ih =>
    refine balanced_bracketed hlayout (by decide) (by decide) fun text htext ↦ ?_
    obtain ⟨item, hitem, rfl⟩ := exists_of_mem_writeItems htext
    exact ih item hitem (level + 1)
  | obj _ _ ih =>
    obtain ⟨blanks, hblanks, hseparator⟩ := hlayout.names
    refine balanced_bracketed hlayout (by decide) (by decide) fun text htext ↦ ?_
    obtain ⟨member, hmember, rfl⟩ := exists_of_mem_writeMembers htext
    rw [hseparator]
    exact ((balanced_writeString member.1).append (balanced_separator (by decide) hblanks)).append
      (ih member hmember (level + 1))

/-- An exact document is written as strict JSON, whatever the layout. -/
theorem isStrict_print (hlayout : layout.IsSeparating) {document : Json} (h : document.IsExact) :
    IsStrict (document.print layout) := by
  obtain ⟨before, chars, after, hbefore, hspells, hafter, htext⟩ :=
    read_eq_ok_iff.1 (read_print hlayout h)
  refine ⟨⟨document, before, chars, after, hbefore, hspells.imp fun _ _ ↦ trivial, hafter, htext⟩,
    fun c hc ↦ ?_⟩
  have hquiet := balanced_write hlayout h 0 [] nofun
  rw [List.append_nil] at hquiet
  rw [print, String.toList_ofList] at hc
  exact (hquiet c hc).2

end Layout

end SpanBridge.Json
