import SpanBridge.Proofs.Number.DigitLimit
import SpanBridge.Proofs.Outcome
import SpanBridge.Trace.Attribute

/-!
# Which values are attributes and have a text

`Attribute.toValue` gives the value that stands for an attribute, a sequence as a tuple. Every tuple
that `Attribute.ofValue` accepts is one of these (`toValue_of_ofValue_tuple`), and the text of the
value is the text of the attribute (`attributeText_toValue`): only the kind of an empty sequence is
lost, and its text is empty whatever its kind. The text exists exactly when all integers are within
the digit limit (`exists_text_iff`). The texts of numbers and of truth values are never empty, so
those of their sequences are only when there is no item (`joined_map_eq_empty_iff`). `Value.frozen`
turns a list into the tuple of its items, which has the same text (`attributeText_frozen`).
-/

set_option autoImplicit false
set_option relaxedAutoImplicit false

namespace SpanBridge

def Scalar.toValue : Scalar → Value
  | .string text => .str text
  | .boolean truth => .bool truth
  | .long number => .int number
  | .double number => .double number

/-- The value of a scalar is read as that scalar. -/
@[simp] theorem Scalar.ofValue_toValue (scalar : Scalar) :
    Scalar.ofValue scalar.toValue = .ok scalar := by
  cases scalar <;> rfl

/-- A scalar that was read has the value from which it was read. -/
theorem Scalar.toValue_of_ofValue {value : Value} {scalar : Scalar}
    (h : Scalar.ofValue value = .ok scalar) : scalar.toValue = value := by
  cases value with
  | str | bool | int | double =>
    obtain rfl := Except.ok.inj h
    rfl
  | _ => cases h

namespace Attribute

/-- An attribute as a value, a sequence as a tuple. -/
def toValue : Attribute → Value
  | .string text => .str text
  | .boolean truth => .bool truth
  | .long number => .int number
  | .double number => .double number
  | .strings items => .tuple (items.map .str)
  | .booleans items => .tuple (items.map .bool)
  | .longs items => .tuple (items.map .int)
  | .doubles items => .tuple (items.map .double)

/-- The integers that an attribute holds. -/
def integers : Attribute → List Int
  | .long number => [number]
  | .longs items => items
  | _ => []

/-- All integers of an attribute are within the digit limit. -/
def IsWritable (attr : Attribute) : Prop :=
  ∀ number ∈ attr.integers, Number.WithinLimit number

/-! ### Sequences of one kind -/

section OneKind

variable {β : Type} (kind : β → Scalar) (read? : Scalar → Option β)

theorem mapM_map_eq_some (hread : ∀ value, read? (kind value) = some value) (items : List β) :
    (items.map kind).mapM read? = some items := by
  induction items with
  | nil => rfl
  | cons item items ih => simp [hread, ih]

theorem eq_map_of_mapM (hread : ∀ scalar value, read? scalar = some value → scalar = kind value)
    {scalars : List Scalar} {values : List β} (h : scalars.mapM read? = some values) :
    scalars = values.map kind := by
  induction scalars generalizing values with
  | nil =>
    obtain rfl := Option.some.inj h
    rfl
  | cons scalar scalars ih =>
    simp only [List.mapM_cons, Option.bind_eq_bind, Option.bind_eq_some_iff, Option.pure_def,
      Option.some.injEq] at h
    obtain ⟨value, hvalue, others, hothers, rfl⟩ := h
    rw [List.map_cons, ← hread scalar value hvalue, ← ih hothers]

end OneKind

theorem ofScalars_strings (items : List String) :
    ofScalars (items.map .string) = .ok (.strings items) := by
  rw [ofScalars, mapM_map_eq_some Scalar.string Scalar.string? fun _ ↦ rfl]

theorem ofScalars_booleans (item : Bool) (items : List Bool) :
    ofScalars ((item :: items).map .boolean) = .ok (.booleans (item :: items)) := by
  rw [ofScalars, mapM_map_eq_some Scalar.boolean Scalar.boolean? fun _ ↦ rfl]
  simp [Scalar.string?]

theorem ofScalars_longs (item : Int) (items : List Int) :
    ofScalars ((item :: items).map .long) = .ok (.longs (item :: items)) := by
  rw [ofScalars, mapM_map_eq_some Scalar.long Scalar.long? fun _ ↦ rfl]
  simp [Scalar.string?, Scalar.boolean?]

theorem ofScalars_doubles (item : Double) (items : List Double) :
    ofScalars ((item :: items).map .double) = .ok (.doubles (item :: items)) := by
  rw [ofScalars, mapM_map_eq_some Scalar.double Scalar.double? fun _ ↦ rfl]
  simp [Scalar.string?, Scalar.boolean?, Scalar.long?]

/-- An attribute made of scalars is the tuple of their values. -/
theorem toValue_of_ofScalars {scalars : List Scalar} {attr : Attribute}
    (h : ofScalars scalars = .ok attr) :
    attr.toValue = .tuple (scalars.map Scalar.toValue) := by
  unfold ofScalars at h
  split at h
  · next texts _ _ _ heq =>
    obtain rfl := Except.ok.inj h
    rw [eq_map_of_mapM .string Scalar.string?
      (fun scalar _ hread ↦ by cases scalar <;> cases hread; rfl) heq]
    simp [toValue, Scalar.toValue]
  · next truths _ _ _ heq =>
    obtain rfl := Except.ok.inj h
    rw [eq_map_of_mapM .boolean Scalar.boolean?
      (fun scalar _ hread ↦ by cases scalar <;> cases hread; rfl) heq]
    simp [toValue, Scalar.toValue]
  · next numbers _ _ _ heq =>
    obtain rfl := Except.ok.inj h
    rw [eq_map_of_mapM .long Scalar.long?
      (fun scalar _ hread ↦ by cases scalar <;> cases hread; rfl) heq]
    simp [toValue, Scalar.toValue]
  · next numbers _ _ _ heq =>
    obtain rfl := Except.ok.inj h
    rw [eq_map_of_mapM .double Scalar.double?
      (fun scalar _ hread ↦ by cases scalar <;> cases hread; rfl) heq]
    simp [toValue, Scalar.toValue]
  · cases h

/-- Scalars make no attribute only where their kinds are mixed. -/
theorem eq_mixedArray_of_ofScalars {scalars : List Scalar} {error : AttributeError}
    (h : ofScalars scalars = .error error) : error = .mixedArray := by
  unfold ofScalars at h
  split at h
  · cases h
  · cases h
  · cases h
  · cases h
  · exact (Except.error.inj h).symm

theorem map_toValue_of_mapM {items : List Value} {scalars : List Scalar}
    (h : items.mapM Scalar.ofValue = .ok scalars) : scalars.map Scalar.toValue = items := by
  have hall := mapM_eq_ok_iff.1 h
  clear h
  induction hall with
  | nil => rfl
  | cons hhead _ ih => rw [List.map_cons, Scalar.toValue_of_ofValue hhead, ih]

theorem mapM_ofValue_map_toValue (scalars : List Scalar) :
    (scalars.map Scalar.toValue).mapM Scalar.ofValue = .ok scalars := by
  induction scalars with
  | nil => rfl
  | cons scalar scalars ih => simp [ih, pure_eq_ok]

/-- A tuple of scalars is read as the attribute that the scalars make. -/
theorem ofValue_tuple (scalars : List Scalar) :
    ofValue (.tuple (scalars.map Scalar.toValue)) = ofScalars scalars := by
  rw [ofValue, mapM_ofValue_map_toValue]
  rfl

/-- A tuple that is an attribute is the value of that attribute. -/
theorem toValue_of_ofValue_tuple {items : List Value} {attr : Attribute}
    (h : ofValue (.tuple items) = .ok attr) : attr.toValue = .tuple items := by
  obtain ⟨scalars, hscalars, hkind⟩ := bind_eq_ok_iff.1 h
  rw [toValue_of_ofScalars hkind, map_toValue_of_mapM hscalars]

/-! ### Integers -/

/-- The integers of a sequence are among its items. -/
theorem int_mem_of_toValue {attr : Attribute} {items : List Value}
    (h : attr.toValue = .tuple items) {number : Int} (hnumber : number ∈ attr.integers) :
    .int number ∈ items := by
  cases attr with
  | longs numbers =>
    obtain rfl := Value.tuple.inj h
    exact List.mem_map_of_mem hnumber
  | long => cases h
  | _ => cases hnumber

/-- Every integer in the value of an attribute is one of the attribute. -/
theorem mem_integers_of_toValue {attr : Attribute} {items : List Value}
    (h : attr.toValue = .tuple items) {number : Int} (hnumber : .int number ∈ items) :
    number ∈ attr.integers := by
  cases attr with
  | longs numbers =>
    obtain rfl := Value.tuple.inj h
    obtain ⟨other, hother, heq⟩ := List.mem_map.1 hnumber
    rw [← Value.int.inj heq]
    exact hother
  | strings | booleans | doubles =>
    obtain rfl := Value.tuple.inj h
    obtain ⟨_, -, heq⟩ := List.mem_map.1 hnumber
    cases heq
  | _ => cases h

theorem withinLimit_of_toValue_int {attr : Attribute} {number : Int} (hwritable : attr.IsWritable)
    (h : attr.toValue = .int number) : Number.WithinLimit number := by
  cases attr with
  | long value =>
    obtain rfl := Value.int.inj h
    exact hwritable value (List.mem_singleton_self value)
  | _ => cases h

/-! ### Texts -/

/-- The text of a tuple of scalars is the one of the attribute that they make. -/
theorem attributeText_scalars (scalars : List Scalar) :
    (Value.tuple (scalars.map Scalar.toValue)).attributeText = ofScalars scalars >>= text := by
  rw [Value.attributeText, ofValue_tuple]

/-- The text of the value of an attribute is the text of the attribute. -/
theorem attributeText_toValue (attr : Attribute) :
    attr.toValue.attributeText = attr.text := by
  cases attr with
  | strings items =>
    have h := attributeText_scalars (items.map .string)
    rw [List.map_map, ofScalars_strings] at h
    exact h
  | booleans items =>
    cases items with
    | nil => rfl
    | cons item items =>
      have h := attributeText_scalars ((item :: items).map .boolean)
      rw [List.map_map, ofScalars_booleans] at h
      exact h
  | longs items =>
    cases items with
    | nil => rfl
    | cons item items =>
      have h := attributeText_scalars ((item :: items).map .long)
      rw [List.map_map, ofScalars_longs] at h
      exact h
  | doubles items =>
    cases items with
    | nil => rfl
    | cons item items =>
      have h := attributeText_scalars ((item :: items).map .double)
      rw [List.map_map, ofScalars_doubles] at h
      exact h
  | _ => rfl

theorem longText_eq_ok {number : Int} (h : Number.WithinLimit number) :
    longText number = .ok (Number.integerText number) := by
  rw [longText, Number.writeInteger_eq_ok h]
  rfl

/-- An integer beyond the digit limit is refused when it is written. -/
theorem longText_eq_error {number : Int} (h : ¬Number.WithinLimit number) :
    longText number = .error (.tooManyDigits .writing) := by
  rw [longText, Number.writeInteger_eq_error h]
  rfl

theorem withinLimit_of_longText {number : Int} {text : String} (h : longText number = .ok text) :
    Number.WithinLimit number := by
  by_contra hlong
  rw [longText_eq_error hlong] at h
  cases h

/-- The text of integers has commas between theirs. -/
theorem text_longs {items : List Int} (h : (longs items).IsWritable) :
    (longs items).text = .ok (joined (items.map Number.integerText)) := by
  have htexts : items.mapM longText = .ok (items.map Number.integerText) :=
    mapM_eq_ok_map fun number hnumber ↦ longText_eq_ok (h number hnumber)
  rw [text, htexts, map_ok]

/-- An attribute has a text exactly when all its integers are within the digit limit. -/
theorem exists_text_iff (attr : Attribute) :
    (∃ text, attr.text = .ok text) ↔ attr.IsWritable := by
  cases attr with
  | long number =>
    constructor
    · rintro ⟨text, htext⟩ other hother
      obtain rfl := List.mem_singleton.1 hother
      exact withinLimit_of_longText htext
    · intro hwritable
      exact ⟨_, longText_eq_ok (hwritable number (by simp [integers]))⟩
  | longs items =>
    constructor
    · rintro ⟨text, htext⟩ number hnumber
      obtain ⟨texts, htexts, -⟩ := map_eq_ok_iff.1 htext
      have hall := List.forall₂_iff_get.1 (mapM_eq_ok_iff.1 htexts)
      obtain ⟨place, rfl⟩ := List.get_of_mem hnumber
      exact withinLimit_of_longText (hall.2 place place.isLt (hall.1 ▸ place.isLt))
    · exact fun hwritable ↦ ⟨_, text_longs hwritable⟩
  | _ => simp [text, IsWritable, integers]

/-- The one reason why an attribute has no text is an integer with too many digits. -/
theorem text_eq_error {attr : Attribute} (h : ¬attr.IsWritable) :
    attr.text = .error (.tooManyDigits .writing) := by
  cases attr with
  | long number =>
    refine longText_eq_error fun hlimit ↦ h fun other hother ↦ ?_
    obtain rfl := List.mem_singleton.1 hother
    exact hlimit
  | longs items =>
    cases htexts : items.mapM longText with
    | ok texts => exact absurd ((exists_text_iff _).1 ⟨_, by rw [text, htexts, map_ok]⟩) h
    | error error =>
      obtain ⟨number, -, hnumber⟩ := exists_mem_of_mapM_eq_error htexts
      have hlimit : ¬Number.WithinLimit number := fun hlimit ↦ by
        rw [longText_eq_ok hlimit] at hnumber
        cases hnumber
      rw [longText_eq_error hlimit] at hnumber
      rw [text, htexts, map_error, hnumber]
  | _ => exact absurd (by simp [IsWritable, integers]) h

end Attribute

/-! ### Empty texts -/

theorem Number.integerText_ne_empty (number : Int) : Number.integerText number ≠ "" := by
  intro hempty
  rw [← String.toList_eq_nil_iff, toList_integerText, List.append_eq_nil_iff] at hempty
  exact Nat.toDigits_ne_nil hempty.2

/-- Whatever its digits and its place, a number is laid out in some characters. -/
theorem Double.layOut_ne_nil (format : DoubleFormat) (digits : List Char) (place : Int) :
    Double.layOut format digits place ≠ [] := by
  unfold Double.layOut
  dsimp only
  split
  · split <;> simp
  · simp

theorem Double.text_ne_empty (number : Double) : number.text DoubleFormat.plain ≠ "" := by
  cases number with
  | nan => decide
  | infinite negative => cases negative <;> decide
  | finite negative exponent fraction =>
    rw [Double.text]
    split
    · cases negative <;> decide
    · intro hempty
      rw [← String.toList_eq_nil_iff, String.toList_append, String.toList_ofList,
        List.append_eq_nil_iff] at hempty
      exact layOut_ne_nil _ _ _ hempty.2

namespace Attribute

theorem booleanText_ne_empty (truth : Bool) : booleanText truth ≠ "" := by
  cases truth <;> decide

theorem doubleText_ne_empty (number : Double) : doubleText number ≠ "" := number.text_ne_empty

/-- Texts with commas between them are empty when there is none, or one empty text. -/
theorem joined_eq_empty_iff (texts : List String) :
    joined texts = "" ↔ texts = [] ∨ texts = [""] := by
  match texts with
  | [] => simp [joined]
  | [text] => simp [joined]
  | first :: second :: others => simp [joined, String.append_eq_empty_iff]

/-- A joined text is empty only for an empty list, where no item has an empty text. -/
theorem joined_map_eq_empty_iff {β : Type} {f : β → String} (hf : ∀ item, f item ≠ "")
    (items : List β) : joined (items.map f) = "" ↔ items = [] := by
  rw [joined_eq_empty_iff, List.map_eq_nil_iff, List.map_eq_singleton_iff]
  refine or_iff_left ?_
  rintro ⟨item, -, hempty⟩
  exact hf item hempty

end Attribute

/-! ### Lists and tuples -/

namespace Value

/-- A value with a list as the tuple of its items. -/
def frozen : Value → Value
  | .list items => .tuple items
  | value => value

/-- Lists and tuples have the same text. -/
theorem attributeText_frozen (value : Value) :
    value.frozen.attributeText = value.attributeText := by
  cases value <;> rfl

/-- Lists and tuples count as present alike. -/
theorem isTruthy_frozen (value : Value) : value.frozen.isTruthy = value.isTruthy := by
  cases value <;> rfl

end Value
end SpanBridge
