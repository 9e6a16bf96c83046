import Mathlib.Data.List.TakeWhile
import SpanBridge.Json.Reader
import SpanBridge.Proofs.Outcome

/-!
# The grammar of JSON texts

What it means that characters spell a document, without regard to how they are read: strings by
their units (`Json.SpellsUnits`), numbers by sign, digits, decimals and exponent
(`Json.SpellsNumber`), values, items and members by one relation on the parts of a text
(`Json.Spells`). `Json.IsText` says of a text that it is a document with separators around it. The
numbers of digits that an integer may have are a parameter: the standard admits all of them and the
reader those within its limit.
-/

set_option autoImplicit false
set_option relaxedAutoImplicit false

namespace SpanBridge.Json

/-! ### Separators -/

/-- Characters that are separators only. -/
def IsBlanks (chars : List Char) : Prop := ∀ c ∈ chars, isSeparator c = true

theorem isBlanks_nil : IsBlanks [] := nofun

theorem IsBlanks.append {first second : List Char} (h : IsBlanks first) (h' : IsBlanks second) :
    IsBlanks (first ++ second) := List.forall_mem_append.2 ⟨h, h'⟩

theorem skipBlanks_append {blanks : List Char} (h : IsBlanks blanks) (chars : List Char) :
    skipBlanks (blanks ++ chars) = skipBlanks chars :=
  List.dropWhile_append_of_pos h

theorem skipBlanks_cons {c : Char} (h : isSeparator c = false) (chars : List Char) :
    skipBlanks (c :: chars) = c :: chars :=
  List.dropWhile_cons_of_neg (Bool.eq_false_iff.1 h)

theorem skipBlanks_eq_nil {blanks : List Char} (h : IsBlanks blanks) : skipBlanks blanks = [] := by
  have hskip := skipBlanks_append h []
  rwa [List.append_nil] at hskip

theorem exists_blanks (chars : List Char) :
    ∃ blanks, IsBlanks blanks ∧ chars = blanks ++ skipBlanks chars :=
  ⟨chars.takeWhile isSeparator, fun _ hmem ↦ List.mem_takeWhile_imp hmem,
    List.takeWhile_append_dropWhile.symm⟩

/-! ### Strings -/

/-- Characters between quotes spell units: each is written as it is, by a letter after a backslash,
or by four hexadecimal digits. -/
inductive SpellsUnits : List Char → List Nat → Prop where
  | nil : SpellsUnits [] []
  | plain {c : Char} {chars : List Char} {units : List Nat} (hquote : c ≠ '"')
      (hbackslash : c ≠ '\\') (hcontrol : 0x20 ≤ c.toNat) (h : SpellsUnits chars units) :
    SpellsUnits (c :: chars) (c.toNat :: units)
  | letter {letter char : Char} {chars : List Char} {units : List Nat}
      (hletter : escaped? letter = some char) (h : SpellsUnits chars units) :
    SpellsUnits ('\\' :: letter :: chars) (char.toNat :: units)
  | code {a b c d : Char} {unit : Nat} {chars : List Char} {units : List Nat}
      (hunit : hexUnit? a b c d = some unit) (h : SpellsUnits chars units) :
    SpellsUnits ('\\' :: 'u' :: a :: b :: c :: d :: chars) (unit :: units)

/-- Characters between quotes spell a text. -/
def SpellsText (chars : List Char) (text : String) : Prop :=
  ∃ units, SpellsUnits chars units ∧ text = String.ofList (joinUnits units)

/-! ### Numbers -/

def SpellsDigits (chars : List Char) (digits : List Nat) : Prop :=
  List.Forall₂ (fun c digit ↦ Number.asciiDigit? c = some digit) chars digits

/-- Characters spell the digits before a point. A zero that leads stands alone. -/
def SpellsWhole (chars : List Char) (whole : List Nat) : Prop :=
  SpellsDigits chars whole ∧ whole ≠ [] ∧ (whole.head? = some 0 → whole = [0])

/-- Characters spell a point with digits, or nothing. -/
inductive SpellsDecimals : List Char → Option (List Nat) → Prop where
  | absent : SpellsDecimals [] none
  | given {chars : List Char} {digits : List Nat} (h : SpellsDigits chars digits)
      (hne : digits ≠ []) : SpellsDecimals ('.' :: chars) (some digits)

/-- Characters spell the sign of an exponent. -/
inductive SpellsSign : List Char → Bool → Prop where
  | absent : SpellsSign [] false
  | plus : SpellsSign ['+'] false
  | minus : SpellsSign ['-'] true

/-- Characters spell a mark with an exponent, or nothing. -/
inductive SpellsExponent : List Char → Option Int → Prop where
  | absent : SpellsExponent [] none
  | given {mark : Char} {sign chars : List Char} {negative : Bool} {digits : List Nat}
      (hmark : mark = 'e' ∨ mark = 'E') (hsign : SpellsSign sign negative)
      (h : SpellsDigits chars digits) (hne : digits ≠ []) :
    SpellsExponent (mark :: (sign ++ chars))
      (some (Number.signed negative (Number.ofDigits digits)))

def minusText (negative : Bool) : List Char := if negative then ['-'] else []

/-- Characters spell a number, which is an integer unless it has decimals or an exponent. -/
inductive SpellsNumber (admits : Nat → Prop) : List Char → Json → Prop where
  | int {negative : Bool} {chars : List Char} {whole : List Nat} (hwhole : SpellsWhole chars whole)
      (hlength : admits whole.length) :
    SpellsNumber admits (minusText negative ++ chars)
      (.int (Number.signed negative (Number.ofDigits whole)))
  | double {negative : Bool} {wholeChars decimalChars exponentChars : List Char} {whole : List Nat}
      {decimals : Option (List Nat)} {exponent : Option Int}
      (hwhole : SpellsWhole wholeChars whole) (hdecimals : SpellsDecimals decimalChars decimals)
      (hexponent : SpellsExponent exponentChars exponent)
      (hdouble : (decimals.isNone && exponent.isNone) = false) :
    SpellsNumber admits (minusText negative ++ (wholeChars ++ (decimalChars ++ exponentChars)))
      (.double (Number.DecimalParts.toDouble negative
        ⟨whole, decimals.getD [], exponent.getD 0⟩))

/-! ### Values -/

/-- What a part of a text can be: a value, or what stands in an array or object that has items or
members, up to the closing bracket. -/
inductive Part where
  | value (document : Json)
  | items (items : List Json)
  | members (members : List (String × Json))

/-- Characters spell a part of a text. Of members with one name the last counts. -/
inductive Spells (admits : Nat → Prop) : List Char → Part → Prop where
  | word {chars : List Char} {document : Json} (h : (chars, document) ∈ words) :
    Spells admits chars (.value document)
  | number {chars : List Char} {document : Json} (h : SpellsNumber admits chars document) :
    Spells admits chars (.value document)
  | str {chars : List Char} {text : String} (h : SpellsText chars text) :
    Spells admits ('"' :: (chars ++ ['"'])) (.value (.str text))
  | emptyArr {blanks : List Char} (hblanks : IsBlanks blanks) :
    Spells admits ('[' :: (blanks ++ [']'])) (.value (.arr []))
  | arr {blanks chars : List Char} {items : List Json} (hblanks : IsBlanks blanks)
      (h : Spells admits chars (.items items)) :
    Spells admits ('[' :: (blanks ++ chars)) (.value (.arr items))
  | emptyObj {blanks : List Char} (hblanks : IsBlanks blanks) :
    Spells admits ('\x7b' :: (blanks ++ ['\x7d'])) (.value (.obj []))
  | obj {blanks chars : List Char} {members : List (String × Json)} (hblanks : IsBlanks blanks)
      (h : Spells admits chars (.members members)) :
    Spells admits ('\x7b' :: (blanks ++ chars))
      (.value (.obj (Entries.ofList (· = ·) members)))
  | lastItem {chars before : List Char} {item : Json} (h : Spells admits chars (.value item))
      (hbefore : IsBlanks before) : Spells admits (chars ++ (before ++ [']'])) (.items [item])
  | item {chars before after rest : List Char} {item : Json} {items : List Json}
      (h : Spells admits chars (.value item)) (hbefore : IsBlanks before) (hafter : IsBlanks after)
      (hrest : Spells admits rest (.items items)) :
    Spells admits (chars ++ (before ++ ',' :: (after ++ rest))) (.items (item :: items))
  | lastMember {nameChars beforeColon afterColon chars before : List Char} {name : String}
      {document : Json} (hname : SpellsText nameChars name) (hbeforeColon : IsBlanks beforeColon)
      (hafterColon : IsBlanks afterColon) (h : Spells admits chars (.value document))
      (hbefore : IsBlanks before) :
    Spells admits
      ('"' :: (nameChars ++ '"' :: (beforeColon ++ ':' :: (afterColon ++
        (chars ++ (before ++ ['\x7d']))))))
      (.members [(name, document)])
  | member {nameChars beforeColon afterColon chars before after rest : List Char} {name : String}
      {document : Json} {members : List (String × Json)} (hname : SpellsText nameChars name)
      (hbeforeColon : IsBlanks beforeColon) (hafterColon : IsBlanks afterColon)
      (h : Spells admits chars (.value document)) (hbefore : IsBlanks before)
      (hafter : IsBlanks after) (hrest : Spells admits rest (.members members)) :
    Spells admits
      ('"' :: (nameChars ++ '"' :: (beforeColon ++ ':' :: (afterColon ++
        (chars ++ (before ++ ',' :: (after ++ rest)))))))
      (.members ((name, document) :: members))

/-- A text is a JSON text: a document with separators around it, whose integers have as many digits
as are admitted. -/
def IsText (admits : Nat → Prop) (text : String) (document : Json) : Prop :=
  ∃ before chars after, IsBlanks before ∧ Spells admits chars (.value document) ∧
    IsBlanks after ∧ text.toList = before ++ (chars ++ after)

/-- A text is well-formed, whatever the size of its integers. -/
def IsWellFormed (text : String) : Prop := ∃ document, IsText (fun _ ↦ True) text document

/-! ### Admitted numbers of digits -/

/-- A number is still spelled where integers may have more digits. -/
theorem SpellsNumber.imp {admits admits' : Nat → Prop}
    (himp : ∀ count, admits count → admits' count) {chars : List Char} {document : Json}
    (h : SpellsNumber admits chars document) :
    SpellsNumber admits' chars document := by
  cases h with
  | int hwhole hlength => exact .int hwhole (himp _ hlength)
  | double hwhole hdecimals hexponent hdouble => exact .double hwhole hdecimals hexponent hdouble

/-- A text is still spelled where integers may have more digits. -/
theorem Spells.imp {admits admits' : Nat → Prop} (himp : ∀ count, admits count → admits' count)
    {chars : List Char} {part : Part} (h : Spells admits chars part) :
    Spells admits' chars part := by
  induction h with
  | word h => exact .word h
  | number h => exact .number (h.imp himp)
  | str h => exact .str h
  | emptyArr hblanks => exact .emptyArr hblanks
  | arr hblanks _ ih => exact .arr hblanks ih
  | emptyObj hblanks => exact .emptyObj hblanks
  | obj hblanks _ ih => exact .obj hblanks ih
  | lastItem _ hbefore ih => exact .lastItem ih hbefore
  | item _ hbefore hafter _ ih ihrest => exact .item ih hbefore hafter ihrest
  | lastMember hname hbeforeColon hafterColon _ hbefore ih =>
    exact .lastMember hname hbeforeColon hafterColon ih hbefore
  | member hname hbeforeColon hafterColon _ hbefore hafter _ ih ihrest =>
    exact .member hname hbeforeColon hafterColon ih hbefore hafter ihrest

/-! ### First characters -/

/-- The characters with which a value can begin. -/
def opensValue (c : Char) : Bool :=
  (Number.asciiDigit? c).isSome || c ∈ ['"', '[', '\x7b', '-', 'n', 't', 'f', 'N', 'I']

/-- No value begins with a separator. -/
theorem not_isSeparator_of_opensValue {c : Char} (h : opensValue c = true) :
    isSeparator c = false := by
  by_contra hseparator
  simp only [isSeparator, Bool.or_eq_true, decide_eq_true_eq, Bool.not_eq_false] at hseparator
  rcases hseparator with ((rfl | rfl) | rfl) | rfl <;> revert h <;> decide

theorem ne_of_opensValue {c other : Char} (h : opensValue c = true)
    (hother : opensValue other = false) : c ≠ other := by
  rintro rfl
  rw [h] at hother
  cases hother

/-- Characters of which the first can begin a value. -/
def StartsValue (chars : List Char) : Prop := ∃ c rest, chars = c :: rest ∧ opensValue c = true

theorem StartsValue.append {chars : List Char} (h : StartsValue chars) (after : List Char) :
    StartsValue (chars ++ after) := by
  obtain ⟨c, rest, rfl, hc⟩ := h
  exact ⟨c, rest ++ after, rfl, hc⟩

theorem StartsValue.minusText_append {negative : Bool} {chars : List Char}
    (h : StartsValue chars) : StartsValue (minusText negative ++ chars) := by
  cases negative with
  | true => exact ⟨'-', chars, rfl, by decide⟩
  | false => exact h

theorem SpellsWhole.startsValue {chars : List Char} {whole : List Nat}
    (h : SpellsWhole chars whole) : StartsValue chars := by
  obtain ⟨hdigits, hne, -⟩ := h
  cases hdigits with
  | nil => exact absurd rfl hne
  | cons hdigit => exact ⟨_, _, rfl, by simp [opensValue, hdigit]⟩

/-- A part of a text begins like a value. -/
theorem Spells.startsValue {admits : Nat → Prop} {chars : List Char} {part : Part}
    (h : Spells admits chars part) : StartsValue chars := by
  induction h with
  | word h =>
    simp only [words, List.mem_cons, Prod.mk.injEq, List.not_mem_nil, or_false] at h
    rcases h with ⟨rfl, -⟩ | ⟨rfl, -⟩ | ⟨rfl, -⟩ | ⟨rfl, -⟩ | ⟨rfl, -⟩ | ⟨rfl, -⟩ <;>
      exact ⟨_, _, rfl, by decide⟩
  | number h =>
    cases h with
    | int hwhole => exact hwhole.startsValue.minusText_append
    | double hwhole => exact (hwhole.startsValue.append _).minusText_append
  | str | emptyArr | arr | emptyObj | obj | lastMember | member => exact ⟨_, _, rfl, by decide⟩
  | lastItem _ _ ih | item _ _ _ _ ih => exact ih.append _

end SpanBridge.Json
