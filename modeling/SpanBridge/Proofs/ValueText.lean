import SpanBridge.Proofs.Attribute

/-!
# Exactly the attributes have a text

A scalar is a text, a truth value, an integer or a double precision number. The values that have a
text are the scalars and the lists and tuples of scalars of one type, as long as their integers are
within the digit limit (`Value.HasText`). All others are refused for one reason (`Value.IsRefused`):
a sequence for the first of its items that is no scalar, whatever comes before it, else for items of
several types, else for an integer that is too long. One of both is so of every value
(`hasText_or_isRefused`), and the conversion to a text tells which (`attributeText_exact`).
-/

set_option autoImplicit false
set_option relaxedAutoImplicit false

namespace SpanBridge

namespace Value

/-! ### Texts and refusals -/

/-- The values of the four types that an attribute may have on its own. -/
def IsScalar (value : Value) : Prop := value.typeName ∈ ["str", "bool", "int", "float"]

instance : DecidablePred IsScalar := fun value ↦
  inferInstanceAs (Decidable (value.typeName ∈ ["str", "bool", "int", "float"]))

def items? : Value → Option (List Value)
  | .list items | .tuple items => some items
  | _ => none

/-- Items of one type. Truth values are no integers. -/
def AreOfOneType (items : List Value) : Prop :=
  ∀ first ∈ items, ∀ second ∈ items, first.typeName = second.typeName

/-- The text of a scalar. -/
inductive ScalarHasText : Value → String → Prop where
  | str (text : String) : ScalarHasText (.str text) text
  | true : ScalarHasText (.bool true) "true"
  | false : ScalarHasText (.bool false) "false"
  | int {number : Int} (h : Number.WithinLimit number) :
    ScalarHasText (.int number) (Number.integerText number)
  | nan : ScalarHasText (.double .nan) "NaN"
  | infinity : ScalarHasText (.double (.infinite false)) "Infinity"
  | negativeInfinity : ScalarHasText (.double (.infinite true)) "-Infinity"
  | finite (negative : Bool) (exponent : Fin 2047) (fraction : Fin Double.fractionCount) :
    ScalarHasText (.double (.finite negative exponent fraction))
      ((Double.finite negative exponent fraction).text DoubleFormat.plain)

/-- The text of a value: that of a scalar, or those of scalars of one type with commas between them,
be they in a list or in a tuple. -/
inductive HasText : Value → String → Prop where
  | scalar {value : Value} {text : String} (h : ScalarHasText value text) : HasText value text
  | sequence {value : Value} {items : List Value} {texts : List String}
      (hitems : value.items? = some items) (htype : AreOfOneType items)
      (htexts : List.Forall₂ ScalarHasText items texts) :
    HasText value (String.intercalate "," texts)

/-- Why a value has no text, with the category and the message of the failure. -/
inductive IsRefused : Value → Category → String → Prop where
  | type {value : Value} (hitems : value.items? = none) (htype : ¬value.IsScalar) :
    IsRefused value .wrongType ("Unsupported attribute value type: " ++ value.typeName)
  | itemType {value item : Value} {before after : List Value}
      (hitems : value.items? = some (before ++ item :: after))
      (hbefore : ∀ earlier ∈ before, earlier.IsScalar) (hitem : ¬item.IsScalar) :
    IsRefused value .wrongType ("Unsupported attribute value type: " ++ item.typeName)
  | mixed {value : Value} {items : List Value} (hitems : value.items? = some items)
      (hscalars : ∀ item ∈ items, item.IsScalar) (htypes : ¬AreOfOneType items) :
    IsRefused value .wrongType "Attribute arrays must be homogeneous"
  | digits {number : Int} (h : ¬Number.WithinLimit number) :
    IsRefused (.int number) .invalid Number.DigitLimitError.writing.message
  | itemDigits {value : Value} {items : List Value} {number : Int}
      (hitems : value.items? = some items) (hscalars : ∀ item ∈ items, item.IsScalar)
      (htype : AreOfOneType items) (hnumber : .int number ∈ items)
      (h : ¬Number.WithinLimit number) :
    IsRefused value .invalid Number.DigitLimitError.writing.message

/-! ### Scalars -/

theorem isScalar_iff {value : Value} :
    value.IsScalar ↔ ∃ scalar : Scalar, scalar.toValue = value := by
  constructor
  · intro h
    cases value with
    | str text => exact ⟨.string text, rfl⟩
    | bool truth => exact ⟨.boolean truth, rfl⟩
    | int number => exact ⟨.long number, rfl⟩
    | double number => exact ⟨.double number, rfl⟩
    | null | bytes | list | tuple | map => exact absurd h (by simp [IsScalar, typeName])
  · rintro ⟨scalar, rfl⟩
    cases scalar <;> simp [IsScalar, typeName, Scalar.toValue]

theorem ofValue_of_not_isScalar {value : Value} (h : ¬value.IsScalar) :
    Scalar.ofValue value = .error (.unsupportedType value.typeName) := by
  cases value with
  | str | bool | int | double => exact absurd (by simp [IsScalar, typeName]) h
  | null | bytes | list | tuple | map => rfl

theorem items?_of_isScalar {value : Value} (h : value.IsScalar) : value.items? = none := by
  obtain ⟨scalar, rfl⟩ := isScalar_iff.1 h
  cases scalar <;> rfl

/-- A value without items has the text of its scalar. -/
theorem attributeText_of_items?_eq_none {value : Value} (h : value.items? = none) :
    value.attributeText = (Scalar.ofValue value).map Scalar.toAttribute >>= Attribute.text := by
  cases value with
  | list | tuple => cases h
  | _ => rfl

theorem attributeText_of_scalarHasText {value : Value} {text : String}
    (h : ScalarHasText value text) : value.attributeText = .ok text := by
  cases h with
  | int hlimit => exact Attribute.longText_eq_ok hlimit
  | _ => rfl

theorem ScalarHasText.isScalar {value : Value} {text : String} (h : ScalarHasText value text) :
    value.IsScalar := by
  cases h <;> simp [IsScalar, typeName]

/-- An integer with too many digits is refused. -/
theorem attributeText_int_of_not_withinLimit {number : Int} (h : ¬Number.WithinLimit number) :
    (Value.int number).attributeText = .error (.tooManyDigits .writing) :=
  Attribute.longText_eq_error h

/-- A scalar has a text, unless it is an integer that is too long. -/
theorem exists_scalarHasText_or {value : Value} (h : value.IsScalar) :
    (∃ text, ScalarHasText value text) ∨
      ∃ number, value = .int number ∧ ¬Number.WithinLimit number := by
  obtain ⟨scalar, rfl⟩ := isScalar_iff.1 h
  cases scalar with
  | string text => exact .inl ⟨_, .str text⟩
  | boolean truth =>
    cases truth with
    | true => exact .inl ⟨_, .true⟩
    | false => exact .inl ⟨_, .false⟩
  | long number =>
    by_cases hlimit : Number.WithinLimit number
    · exact .inl ⟨_, .int hlimit⟩
    · exact .inr ⟨number, rfl, hlimit⟩
  | double number =>
    cases number with
    | nan => exact .inl ⟨_, .nan⟩
    | infinite negative =>
      cases negative with
      | false => exact .inl ⟨_, .infinity⟩
      | true => exact .inl ⟨_, .negativeInfinity⟩
    | finite negative exponent fraction => exact .inl ⟨_, .finite negative exponent fraction⟩

/-! ### Sequences -/

/-- A list has the text of the tuple of its items. -/
theorem attributeText_of_items? {value : Value} {items : List Value}
    (h : value.items? = some items) : value.attributeText = (Value.tuple items).attributeText := by
  cases value with
  | list | tuple =>
    obtain rfl := Option.some.inj h
    rfl
  | _ => cases h

/-- Items that are all made in one way. -/
theorem exists_map_eq {β : Type} (make : β → Value) {items : List Value}
    (h : ∀ item ∈ items, ∃ content, make content = item) :
    ∃ contents : List β, contents.map make = items := by
  have hrange : items ∈ Set.range (List.map make) := by
    rw [Set.range_list_map]
    exact h
  exact hrange

theorem exists_map_toValue {items : List Value} (h : ∀ item ∈ items, item.IsScalar) :
    ∃ scalars : List Scalar, scalars.map Scalar.toValue = items :=
  exists_map_eq Scalar.toValue fun item hitem ↦ isScalar_iff.1 (h item hitem)

/-- The first item that is no scalar is reported, whatever is around it. -/
theorem attributeText_of_first {before after : List Value} {item : Value}
    (hbefore : ∀ earlier ∈ before, earlier.IsScalar) (hitem : ¬item.IsScalar) :
    (Value.tuple (before ++ item :: after)).attributeText =
      .error (.unsupportedType item.typeName) := by
  obtain ⟨scalars, rfl⟩ := exists_map_toValue hbefore
  rw [attributeText, Attribute.ofValue, List.mapM_append, Attribute.mapM_ofValue_map_toValue,
    List.mapM_cons, ofValue_of_not_isScalar hitem]
  rfl

/-- Scalars of one type are the items of an attribute. -/
theorem exists_toValue_eq_tuple {items : List Value} (hscalars : ∀ item ∈ items, item.IsScalar)
    (htype : AreOfOneType items) : ∃ attr : Attribute, attr.toValue = .tuple items := by
  cases items with
  | nil => exact ⟨.strings [], rfl⟩
  | cons head tail =>
    have hhead : ∀ item ∈ head :: tail, item.typeName = head.typeName :=
      fun item hitem ↦ htype item hitem head List.mem_cons_self
    obtain ⟨scalar, rfl⟩ := isScalar_iff.1 (hscalars head List.mem_cons_self)
    cases scalar with
    | string text =>
      obtain ⟨contents, hcontents⟩ := exists_map_eq .str fun item hitem ↦ by
        have hname := hhead item hitem
        cases item <;> simp_all [typeName, Scalar.toValue]
      exact ⟨.strings contents, congrArg Value.tuple hcontents⟩
    | boolean truth =>
      obtain ⟨contents, hcontents⟩ := exists_map_eq .bool fun item hitem ↦ by
        have hname := hhead item hitem
        cases item <;> simp_all [typeName, Scalar.toValue]
      exact ⟨.booleans contents, congrArg Value.tuple hcontents⟩
    | long number =>
      obtain ⟨contents, hcontents⟩ := exists_map_eq .int fun item hitem ↦ by
        have hname := hhead item hitem
        cases item <;> simp_all [typeName, Scalar.toValue]
      exact ⟨.longs contents, congrArg Value.tuple hcontents⟩
    | double number =>
      obtain ⟨contents, hcontents⟩ := exists_map_eq .double fun item hitem ↦ by
        have hname := hhead item hitem
        cases item <;> simp_all [typeName, Scalar.toValue]
      exact ⟨.doubles contents, congrArg Value.tuple hcontents⟩

/-- Values made in one way are of one type. -/
theorem areOfOneType_map {β : Type} (make : β → Value) {name : String}
    (h : ∀ content, (make content).typeName = name) (contents : List β) :
    AreOfOneType (contents.map make) := by
  intro first hfirst second hsecond
  obtain ⟨content, -, rfl⟩ := List.mem_map.1 hfirst
  obtain ⟨content', -, rfl⟩ := List.mem_map.1 hsecond
  rw [h, h]

/-- The items of an attribute are of one type. -/
theorem areOfOneType_of_toValue {attr : Attribute} {items : List Value}
    (h : attr.toValue = .tuple items) : AreOfOneType items := by
  cases attr with
  | strings texts =>
    obtain rfl := Value.tuple.inj h
    exact areOfOneType_map .str (fun _ ↦ rfl) texts
  | booleans truths =>
    obtain rfl := Value.tuple.inj h
    exact areOfOneType_map .bool (fun _ ↦ rfl) truths
  | longs numbers =>
    obtain rfl := Value.tuple.inj h
    exact areOfOneType_map .int (fun _ ↦ rfl) numbers
  | doubles numbers =>
    obtain rfl := Value.tuple.inj h
    exact areOfOneType_map .double (fun _ ↦ rfl) numbers
  | _ => cases h

theorem attributeText_of_mixed {items : List Value} (hscalars : ∀ item ∈ items, item.IsScalar)
    (htypes : ¬AreOfOneType items) : (Value.tuple items).attributeText = .error .mixedArray := by
  obtain ⟨scalars, rfl⟩ := exists_map_toValue hscalars
  rw [Attribute.attributeText_scalars]
  cases hattr : Attribute.ofScalars scalars with
  | ok attr => exact absurd (areOfOneType_of_toValue (Attribute.toValue_of_ofScalars hattr)) htypes
  | error error => rw [Attribute.eq_mixedArray_of_ofScalars hattr, error_bind]

/-- The text of an attribute that is a sequence consists of the texts of its items. -/
theorem text_eq_joined {attr : Attribute} {items : List Value} (h : attr.toValue = .tuple items) :
    attr.text = Attribute.joined <$> items.mapM attributeText := by
  cases attr with
  | strings texts =>
    obtain rfl := Value.tuple.inj h
    have htexts : texts.mapM (attributeText ∘ .str) = .ok (texts.map id) :=
      mapM_eq_ok_map fun _ _ ↦ rfl
    rw [List.mapM_map, htexts, List.map_id]
    rfl
  | booleans truths =>
    obtain rfl := Value.tuple.inj h
    have htexts : truths.mapM (attributeText ∘ .bool) = .ok (truths.map Attribute.booleanText) :=
      mapM_eq_ok_map fun _ _ ↦ rfl
    rw [List.mapM_map, htexts]
    rfl
  | longs numbers =>
    obtain rfl := Value.tuple.inj h
    rw [List.mapM_map]
    rfl
  | doubles numbers =>
    obtain rfl := Value.tuple.inj h
    have htexts : numbers.mapM (attributeText ∘ .double) = .ok (numbers.map Attribute.doubleText) :=
      mapM_eq_ok_map fun _ _ ↦ rfl
    rw [List.mapM_map, htexts]
    rfl
  | _ => cases h

/-- Scalars of one type have their texts joined. -/
theorem attributeText_of_areOfOneType {items : List Value}
    (hscalars : ∀ item ∈ items, item.IsScalar) (htype : AreOfOneType items) :
    (Value.tuple items).attributeText = Attribute.joined <$> items.mapM attributeText := by
  obtain ⟨attr, hattr⟩ := exists_toValue_eq_tuple hscalars htype
  rw [← hattr, Attribute.attributeText_toValue, text_eq_joined hattr]

/-- Where one of the integers is too long there is no text. -/
theorem attributeText_of_long {items : List Value} {number : Int}
    (hscalars : ∀ item ∈ items, item.IsScalar) (htype : AreOfOneType items)
    (hnumber : .int number ∈ items) (hlong : ¬Number.WithinLimit number) :
    (Value.tuple items).attributeText = .error (.tooManyDigits .writing) := by
  obtain ⟨attr, hattr⟩ := exists_toValue_eq_tuple hscalars htype
  rw [← hattr, Attribute.attributeText_toValue]
  exact Attribute.text_eq_error fun hwritable ↦
    hlong (hwritable number (Attribute.mem_integers_of_toValue hattr hnumber))

/-! ### Every value -/

theorem attributeText_of_hasText {value : Value} {text : String} (h : value.HasText text) :
    value.attributeText = .ok text := by
  cases h with
  | scalar htext => exact attributeText_of_scalarHasText htext
  | @sequence items texts hitems htype htexts =>
    have hscalars : ∀ item ∈ items, item.IsScalar := by
      intro item hitem
      obtain ⟨text, -, htext⟩ := exists_mem_of_forall₂ htexts.flip hitem
      exact htext.isScalar
    have hmapM : items.mapM attributeText = .ok texts :=
      mapM_eq_ok_iff.2 (htexts.imp fun _ _ ↦ attributeText_of_scalarHasText)
    rw [attributeText_of_items? hitems, attributeText_of_areOfOneType hscalars htype, hmapM, map_ok,
      Attribute.joined]

/-- A value is refused with the category and message that the specification gives it. -/
theorem exists_error_of_isRefused {value : Value} {category : Category} {message : String}
    (h : value.IsRefused category message) :
    ∃ error, value.attributeText = .error error ∧ error.category = category ∧
      error.message = message := by
  cases h with
  | type hitems htype =>
    refine ⟨.unsupportedType value.typeName, ?_, rfl, rfl⟩
    rw [attributeText_of_items?_eq_none hitems, ofValue_of_not_isScalar htype]
    rfl
  | itemType hitems hbefore hitem =>
    refine ⟨.unsupportedType _, ?_, rfl, rfl⟩
    rw [attributeText_of_items? hitems, attributeText_of_first hbefore hitem]
  | mixed hitems hscalars htypes =>
    refine ⟨.mixedArray, ?_, rfl, rfl⟩
    rw [attributeText_of_items? hitems, attributeText_of_mixed hscalars htypes]
  | digits hlong => exact ⟨_, attributeText_int_of_not_withinLimit hlong, rfl, rfl⟩
  | itemDigits hitems hscalars htype hnumber hlong =>
    refine ⟨.tooManyDigits .writing, ?_, rfl, rfl⟩
    rw [attributeText_of_items? hitems, attributeText_of_long hscalars htype hnumber hlong]

theorem hasText_or_isRefused_of_items? {value : Value} {items : List Value}
    (hitems : value.items? = some items) :
    (∃ text, value.HasText text) ∨ ∃ category message, value.IsRefused category message := by
  cases hfirst : items.find? fun item ↦ ¬item.IsScalar with
  | some item =>
    obtain ⟨hitem, before, after, rfl, hbefore⟩ := List.find?_eq_some_iff_append.1 hfirst
    exact .inr ⟨_, _, .itemType hitems (by simpa using hbefore) (by simpa using hitem)⟩
  | none =>
    have hscalars : ∀ item ∈ items, item.IsScalar := by simpa using hfirst
    by_cases htype : AreOfOneType items
    · by_cases htexts : ∀ item ∈ items, ∃ text, ScalarHasText item text
      · obtain ⟨texts, htexts⟩ := exists_forall₂ htexts
        exact .inl ⟨_, .sequence hitems htype htexts⟩
      · push Not at htexts
        obtain ⟨item, hitem, hnone⟩ := htexts
        rcases exists_scalarHasText_or (hscalars item hitem) with
          ⟨text, htext⟩ | ⟨number, rfl, hlong⟩
        · exact absurd htext (hnone text)
        · exact .inr ⟨_, _, .itemDigits hitems hscalars htype hitem hlong⟩
    · exact .inr ⟨_, _, .mixed hitems hscalars htype⟩

/-- The specification gives every value a text or a refusal. -/
theorem hasText_or_isRefused (value : Value) :
    (∃ text, value.HasText text) ∨ ∃ category message, value.IsRefused category message := by
  cases hitems : value.items? with
  | some items => exact hasText_or_isRefused_of_items? hitems
  | none =>
    by_cases hscalar : value.IsScalar
    · rcases exists_scalarHasText_or hscalar with ⟨text, htext⟩ | ⟨number, rfl, hlong⟩
      · exact .inl ⟨text, .scalar htext⟩
      · exact .inr ⟨_, _, .digits hlong⟩
    · exact .inr ⟨_, _, .type hitems hscalar⟩

theorem hasText_of_attributeText {value : Value} {text : String}
    (h : value.attributeText = .ok text) : value.HasText text := by
  rcases hasText_or_isRefused value with ⟨text', htext⟩ | ⟨category, message, hrefused⟩
  · obtain rfl := Except.ok.inj (h.symm.trans (attributeText_of_hasText htext))
    exact htext
  · obtain ⟨error, herror, -⟩ := exists_error_of_isRefused hrefused
    cases h.symm.trans herror

/-- The conversion of a value to a text yields exactly its text, and fails exactly with the category
and the message with which the value is refused. -/
theorem attributeText_exact (value : Value) :
    (∀ text, value.attributeText = .ok text ↔ value.HasText text) ∧
    ∀ category message,
      (∃ error, value.attributeText = .error error ∧ error.category = category ∧
        error.message = message) ↔ value.IsRefused category message := by
  refine ⟨fun text ↦ ⟨hasText_of_attributeText, attributeText_of_hasText⟩,
    fun category message ↦ ⟨?_, exists_error_of_isRefused⟩⟩
  rintro ⟨error, herror, rfl, rfl⟩
  rcases hasText_or_isRefused value with ⟨text, htext⟩ | ⟨category, message, hrefused⟩
  · cases herror.symm.trans (attributeText_of_hasText htext)
  · obtain ⟨error', herror', rfl, rfl⟩ := exists_error_of_isRefused hrefused
    obtain rfl := Except.error.inj (herror.symm.trans herror')
    exact hrefused

-- the first item that is no scalar is reported although the items before it are of two types
example : (Value.list [.int 1, .str "a", .null, .bytes []]).attributeText =
    .error (.unsupportedType "NoneType") := rfl

end Value
end SpanBridge
