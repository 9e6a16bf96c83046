import SpanBridge.Proofs.Attribute
import SpanBridge.Proofs.Conversion

/-!
# The name of a service

The service of a resource should be called by the text of the attribute that names it, and only
where this text is empty or missing by a name for all unknown services (`IsServiceOf`). Whether
there is a name is decided by the value and not by its text, and the two differ at two places:
false and the zeros count as no name although they have a text (`Attribute.IsZero`), and a sequence
of one empty text counts as a name although its text is empty (`Attribute.text_eq_empty_iff`). So
services are named as they should be exactly where neither of these is the name
(`serviceName_exact`).
-/

set_option autoImplicit false
set_option relaxedAutoImplicit false

namespace SpanBridge

/-! ### Attributes that do not name a service -/

namespace Attribute

/-- Whether an attribute is empty: a text or a sequence without anything in it. -/
def IsEmpty : Attribute → Prop
  | .string text => text = ""
  | .strings items => items = []
  | .booleans items => items = []
  | .longs items => items = []
  | .doubles items => items = []
  | _ => False

/-- Whether an attribute is false or zero. -/
def IsZero : Attribute → Prop
  | .boolean truth => truth = false
  | .long number => number = 0
  | .double number => number.isZero = true
  | _ => False

/-- The text of an attribute is empty when the attribute is, or is a sequence of one empty text. -/
theorem text_eq_empty_iff (attr : Attribute) :
    attr.text = .ok "" ↔ attr.IsEmpty ∨ attr = .strings [""] := by
  cases attr with
  | string content => simp [text, IsEmpty]
  | boolean truth => simp [text, IsEmpty, booleanText_ne_empty]
  | long number =>
    by_cases hlimit : Number.WithinLimit number
    · simp [text, IsEmpty, longText_eq_ok hlimit, Number.integerText_ne_empty]
    · simp [text, IsEmpty, longText_eq_error hlimit]
  | double number => simp [text, IsEmpty, doubleText_ne_empty]
  | strings items => simp [text, IsEmpty, joined_eq_empty_iff]
  | booleans items => simp [text, IsEmpty, joined_map_eq_empty_iff booleanText_ne_empty]
  | longs items =>
    by_cases hwritable : (longs items).IsWritable
    · rw [text_longs hwritable, Except.ok.injEq,
        joined_map_eq_empty_iff Number.integerText_ne_empty]
      simp [IsEmpty]
    · rw [text_eq_error hwritable]
      have hsome : items ≠ [] := by
        rintro rfl
        exact hwritable (List.forall_mem_nil _)
      simp [IsEmpty, hsome]
  | doubles items => simp [text, IsEmpty, joined_map_eq_empty_iff doubleText_ne_empty]

/-- The texts of false and of the zeros. -/
theorem text_of_isZero {attr : Attribute} (h : attr.IsZero) :
    ∃ text ∈ ["false", "0", "0.0", "-0.0"], attr.text = .ok text := by
  cases attr with
  | boolean truth =>
    obtain rfl : truth = false := h
    exact ⟨"false", by decide, rfl⟩
  | long number =>
    obtain rfl : number = 0 := h
    exact ⟨"0", by decide, rfl⟩
  | double number =>
    cases number with
    | finite negative exponent fraction =>
      have hzero : (decide (exponent.val = 0) && decide (fraction.val = 0)) = true := h
      refine ⟨(if negative then "-" else "") ++ "0.0", by cases negative <;> decide, ?_⟩
      rw [text, doubleText, Double.text, if_pos hzero]
    | nan | infinite => cases h
  | _ => exact h.elim

theorem isWritable_of_absent {attr : Attribute} (h : attr.IsEmpty ∨ attr.IsZero) :
    attr.IsWritable := by
  cases attr with
  | long number =>
    obtain rfl : number = 0 := h.resolve_left id
    exact List.forall_mem_singleton.2 (by decide)
  | longs items =>
    obtain rfl : items = [] := h.resolve_right id
    exact List.forall_mem_nil _
  | _ => exact List.forall_mem_nil _

/-- An attribute counts as absent when it is empty, false or zero. -/
theorem isTruthy_toValue_iff (attr : Attribute) :
    attr.toValue.isTruthy = false ↔ attr.IsEmpty ∨ attr.IsZero := by
  cases attr <;> simp [toValue, Value.isTruthy, IsEmpty, IsZero]

end Attribute

namespace Conversion

/-! ### What a service is called -/

/-- What the service of a resource should be called: never by an empty text, by the text of the
attribute that names it where this is not empty, and else by the name for all unknown services. -/
structure IsServiceOf (resource : Mapping) (service : String) : Prop where
  nonempty : service ≠ ""
  named : ∀ name text, resource.find? serviceKey = some name → name.attributeText = .ok text →
    text ≠ "" → service = text
  unnamed : (∀ name, resource.find? serviceKey = some name → name.attributeText = .ok "") →
    service = unknownService

/-- The service of a resource is named by an attribute, a sequence either as a list or as a
tuple. -/
def IsNamedBy (resource : Mapping) (attr : Attribute) : Prop :=
  ∃ name, resource.find? serviceKey = some name ∧ name.frozen = attr.toValue

section Named

variable {resource : Mapping} {attr : Attribute}

theorem serviceName_of_none (h : resource.find? serviceKey = none) :
    serviceName resource = .ok unknownService := by
  unfold serviceKey at h
  simp only [serviceName, h]

/-- The unknown service meets the specification where no name is given. -/
theorem isServiceOf_unknown (h : resource.find? serviceKey = none) :
    IsServiceOf resource unknownService where
  nonempty := by decide
  named name text hname := by rw [h] at hname; cases hname
  unnamed _ := rfl

/-- A service is named by the text of the attribute, if this counts as true. -/
theorem serviceName_of_isNamedBy (h : IsNamedBy resource attr) :
    serviceName resource =
      if attr.toValue.isTruthy then attr.text else .ok unknownService := by
  obtain ⟨name, hname, hattr⟩ := h
  unfold serviceKey at hname
  simp only [serviceName, hname]
  rw [← Value.isTruthy_frozen, ← Value.attributeText_frozen, hattr,
    Attribute.attributeText_toValue]

/-- A name that counts as absent leaves the service unknown. -/
theorem serviceName_of_absent (h : IsNamedBy resource attr) (habsent : attr.IsEmpty ∨ attr.IsZero) :
    serviceName resource = .ok unknownService := by
  rw [serviceName_of_isNamedBy h, attr.isTruthy_toValue_iff.2 habsent]
  rfl

/-- A name that does not count as absent is written as any attribute is. -/
theorem serviceName_of_present (h : IsNamedBy resource attr)
    (hpresent : ¬(attr.IsEmpty ∨ attr.IsZero)) : serviceName resource = attr.text := by
  rw [serviceName_of_isNamedBy h,
    Bool.eq_true_of_not_eq_false (attr.isTruthy_toValue_iff.not.2 hpresent)]
  rfl

/-- What a service named by an attribute should be called, in terms of the attribute. -/
theorem isServiceOf_iff (h : IsNamedBy resource attr) (service : String) :
    IsServiceOf resource service ↔ service ≠ "" ∧
      (∀ text, attr.text = .ok text → text ≠ "" → service = text) ∧
      (attr.text = .ok "" → service = unknownService) := by
  obtain ⟨name, hname, hattr⟩ := h
  have htext : name.attributeText = attr.text := by
    rw [← Value.attributeText_frozen, hattr, Attribute.attributeText_toValue]
  constructor
  · rintro ⟨hnonempty, hnamed, hunnamed⟩
    refine ⟨hnonempty, fun text ↦ htext ▸ hnamed name text hname, fun hempty ↦ hunnamed ?_⟩
    intro other hother
    obtain rfl := Option.some.inj (hname.symm.trans hother)
    rw [htext, hempty]
  · rintro ⟨hnonempty, hnamed, hunnamed⟩
    refine ⟨hnonempty, fun other text hother ↦ ?_,
      fun hempty ↦ hunnamed (htext ▸ hempty name hname)⟩
    obtain rfl := Option.some.inj (hname.symm.trans hother)
    exact htext ▸ hnamed text

/-- A service has the name it should have when the attribute that names it has a text and is neither
false nor zero nor a sequence of one empty text. -/
theorem exists_isServiceOf (h : IsNamedBy resource attr) (hwritable : attr.IsWritable)
    (hzero : ¬attr.IsZero) (hblank : attr ≠ .strings [""]) :
    ∃ service, serviceName resource = .ok service ∧ IsServiceOf resource service := by
  by_cases hempty : attr.IsEmpty
  · have htext : attr.text = .ok "" := attr.text_eq_empty_iff.2 (.inl hempty)
    refine ⟨_, serviceName_of_absent h (.inl hempty), (isServiceOf_iff h _).2 ⟨by decide, ?_, ?_⟩⟩
    · intro text hother hne
      exact absurd (Except.ok.inj (htext.symm.trans hother)).symm hne
    · exact fun _ ↦ rfl
  · obtain ⟨text, htext⟩ := attr.exists_text_iff.2 hwritable
    have hne : attr.text ≠ .ok "" := fun hblank' ↦
      (attr.text_eq_empty_iff.1 hblank').elim hempty hblank
    refine ⟨text, (serviceName_of_present h (not_or_intro hempty hzero)).trans htext,
      (isServiceOf_iff h _).2 ⟨?_, ?_, ?_⟩⟩
    · rintro rfl
      exact hne htext
    · exact fun other hother _ ↦ Except.ok.inj (htext.symm.trans hother)
    · exact fun hblank' ↦ absurd hblank' hne

/-- A list of one empty text names the service by the empty text. -/
theorem serviceName_of_blank (h : IsNamedBy resource (.strings [""])) :
    serviceName resource = .ok "" :=
  (serviceName_of_present h (by simp [Attribute.IsEmpty, Attribute.IsZero])).trans
    ((Attribute.text_eq_empty_iff _).2 (.inr rfl))

/-- A name that cannot be written is refused. -/
theorem serviceName_of_not_isWritable (h : IsNamedBy resource attr) (hlong : ¬attr.IsWritable) :
    serviceName resource = .error (.tooManyDigits .writing) :=
  (serviceName_of_present h (mt Attribute.isWritable_of_absent hlong)).trans
    (Attribute.text_eq_error hlong)

/-- False and the zeros have texts that are lost. -/
theorem not_isServiceOf_of_isZero (h : IsNamedBy resource attr) (hzero : attr.IsZero) :
    ¬IsServiceOf resource unknownService := by
  intro hservice
  obtain ⟨text, hmem, htext⟩ := Attribute.text_of_isZero hzero
  have hne : ∀ text ∈ ["false", "0", "0.0", "-0.0"], text ≠ "" ∧ unknownService ≠ text := by decide
  exact (hne text hmem).2 (((isServiceOf_iff h _).1 hservice).2.1 text htext (hne text hmem).1)

end Named

/-- The service of a resource gets the name that it should have exactly when the attribute that
names it, if there is one, is neither false nor zero nor a sequence of one empty text, and has no
integer with too many digits. In the first two cases it is called unknown, in the third by the empty
text, and in the fourth there is no name. -/
theorem serviceName_exact {resource : Mapping}
    (h : ∀ name, resource.find? serviceKey = some name →
      ∃ attr : Attribute, name.frozen = attr.toValue) :
    ((∃ service, serviceName resource = .ok service ∧ IsServiceOf resource service) ↔
      ∀ attr, IsNamedBy resource attr →
        attr.IsWritable ∧ ¬attr.IsZero ∧ attr ≠ .strings [""]) ∧
    ∀ attr, IsNamedBy resource attr →
      (attr.IsZero → serviceName resource = .ok unknownService) ∧
      (attr = .strings [""] → serviceName resource = .ok "") ∧
      (¬attr.IsWritable → serviceName resource = .error (.tooManyDigits .writing)) := by
  have hexceptions : ∀ attr, IsNamedBy resource attr →
      (attr.IsZero → serviceName resource = .ok unknownService) ∧
      (attr = .strings [""] → serviceName resource = .ok "") ∧
      (¬attr.IsWritable → serviceName resource = .error (.tooManyDigits .writing)) :=
    fun attr hattr ↦ ⟨fun hzero ↦ serviceName_of_absent hattr (.inr hzero),
      fun hblank ↦ serviceName_of_blank (hblank ▸ hattr), serviceName_of_not_isWritable hattr⟩
  refine ⟨⟨?given, ?named⟩, hexceptions⟩
  case given =>
    rintro ⟨service, hservice, hright⟩ attr hattr
    obtain ⟨hzero, hblank, hlong⟩ := hexceptions attr hattr
    refine ⟨?_, fun hiszero ↦ ?_, fun hisblank ↦ ?_⟩
    · by_contra hnot
      cases hservice.symm.trans (hlong hnot)
    · obtain rfl := Except.ok.inj (hservice.symm.trans (hzero hiszero))
      exact not_isServiceOf_of_isZero hattr hiszero hright
    · exact hright.nonempty (Except.ok.inj (hservice.symm.trans (hblank hisblank)))
  case named =>
    intro hall
    cases hname : resource.find? serviceKey with
    | none => exact ⟨_, serviceName_of_none hname, isServiceOf_unknown hname⟩
    | some name =>
      obtain ⟨attr, hattr⟩ := h name hname
      have hnamed : IsNamedBy resource attr := ⟨name, hname, hattr⟩
      obtain ⟨hwritable, hzero, hblank⟩ := hall attr hnamed
      exact exists_isServiceOf hnamed hwritable hzero hblank

def resourceNamed (name : Value) : Mapping := Mapping.empty.insert serviceKey name

theorem find?_resourceNamed (name : Value) :
    (resourceNamed name).find? serviceKey = some name := rfl

theorem isNamedBy_resourceNamed_iff (name : Value) (attr : Attribute) :
    IsNamedBy (resourceNamed name) attr ↔ name.frozen = attr.toValue := by
  simp only [IsNamedBy, find?_resourceNamed, Option.some.injEq, exists_eq_left']

/-- A list of two texts, the second of them empty, names a service. -/
theorem serviceName_exact_list :
    let resource := resourceNamed (.list [.str "api", .str ""])
    (∃ service, serviceName resource = .ok service ∧ IsServiceOf resource service) ∧
      serviceName resource = .ok "api," := by
  intro resource
  have hnamed : ∀ attr, IsNamedBy resource attr → attr = .strings ["api", ""] := by
    intro attr hattr
    have hvalue : Value.tuple (["api", ""].map Value.str) = attr.toValue :=
      (isNamedBy_resourceNamed_iff _ attr).1 hattr
    cases attr with
    | strings items =>
      have hitems := Value.tuple.inj hvalue
      rw [List.map_injective_iff.2 (fun _ _ ↦ Value.str.inj) hitems]
    | booleans items | longs items | doubles items =>
      cases items <;> simp [Attribute.toValue] at hvalue
    | _ => cases hvalue
  refine ⟨(serviceName_exact ?_).1.2 ?_, rfl⟩
  · intro name hname
    obtain rfl := Option.some.inj hname
    exact ⟨.strings ["api", ""], rfl⟩
  · intro attr hattr
    rw [hnamed attr hattr]
    exact ⟨List.forall_mem_nil _, id, by decide⟩

/-- False and the zeros are lost, and a sequence of one empty text names a service by it. -/
theorem services_without_their_names :
    (∀ name ∈ [Value.bool false, .int 0, .double (.zero false), .double (.zero true)],
      serviceName (resourceNamed name) = .ok unknownService ∧
        ¬IsServiceOf (resourceNamed name) unknownService) ∧
    serviceName (resourceNamed (.list [.str ""])) = .ok "" ∧
      ¬IsServiceOf (resourceNamed (.list [.str ""])) "" := by
  have hzero : ∀ attr : Attribute, attr.IsZero → attr.toValue.frozen = attr.toValue →
      serviceName (resourceNamed attr.toValue) = .ok unknownService ∧
        ¬IsServiceOf (resourceNamed attr.toValue) unknownService := fun attr hattr hfrozen ↦
    have hnamed := (isNamedBy_resourceNamed_iff attr.toValue attr).2 hfrozen
    ⟨serviceName_of_absent hnamed (.inr hattr), not_isServiceOf_of_isZero hnamed hattr⟩
  refine ⟨?_, serviceName_of_blank ⟨_, rfl, rfl⟩, fun h ↦ h.nonempty rfl⟩
  simp only [List.forall_mem_cons, List.not_mem_nil, IsEmpty.forall_iff, implies_true, and_true]
  exact ⟨hzero (.boolean false) rfl rfl, hzero (.long 0) rfl rfl,
    hzero (.double (.zero false)) rfl rfl, hzero (.double (.zero true)) rfl rfl⟩

end Conversion
end SpanBridge
