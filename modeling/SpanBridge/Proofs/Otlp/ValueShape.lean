import SpanBridge.Proofs.Otlp.Decoding
import SpanBridge.Proofs.Otlp.Judges
import SpanBridge.Proofs.Sorting

/-!
# Which attribute values are refused as invalid

Reading a value judges its shape (`judgesValues`). A document may stand for a value, for an array or
for the list of the values of an array, and what is judged in one of these places depends on the
others. So the three are one statement, proved by recursion on the document: `judgesValues_arr` and
`judgesValues_obj` are its steps. A value without a known kind is shown by its sorted names; that
they can be sorted is `Value.sorted_texts`.
-/

set_option autoImplicit false
set_option relaxedAutoImplicit false

namespace SpanBridge.Otlp

/-! ### Texts and scalars -/

/-- A text is held exactly when it is a part of the other. -/
theorem holdsText_iff (part text : List Char) : holdsText part text = true ↔ part <:+: text := by
  induction text with
  | nil => simp [holdsText]
  | cons c text ih =>
    rw [holdsText, Bool.or_eq_true, ih, List.isPrefixOf_iff_prefix, List.infix_cons_iff]

/-- The refusal of unknown kinds judges whether they can be sorted. -/
theorem judges_unsupported {α : Type} {items : List Value} :
    Judges DocumentError.category (unsupported items : Except DocumentError α)
      (∃ sorted, Value.sorted items = .ok sorted) := by
  rw [unsupported]
  cases hsorted : Value.sorted items with
  | ok sorted => exact .invalid rfl
  | error pair =>
    refine .unshaped ?_
    rintro ⟨sorted, h⟩
    cases h

theorem judges_decodeText {α : Type} {text : String} :
    Judges DocumentError.category (decodeText text : Except DocumentError α)
      (∀ kind ∈ valueKinds, ¬kind.toList <:+: text.toList) := by
  unfold decodeText
  split
  · next hholds =>
    obtain ⟨kind, hkind, hholds⟩ := List.any_eq_true.1 hholds
    exact .unshaped fun h ↦ h kind hkind ((holdsText_iff _ _).1 hholds)
  · next hnone =>
    refine judges_unsupported.congr (iff_of_true (Value.sorted_texts ?_) fun kind hkind hinfix ↦ ?_)
    · intro value hvalue
      obtain ⟨c, -, rfl⟩ := List.mem_map.1 hvalue
      exact ⟨_, rfl⟩
    · exact hnone (List.any_eq_true.2 ⟨kind, hkind, (holdsText_iff _ _).2 hinfix⟩)

/-- Making a sequence asks for no shape. -/
theorem judges_sequenceOf {items : List Value} :
    Judges DocumentError.category (sequenceOf items) True := by
  rw [sequenceOf]
  cases Attribute.ofValue (.tuple items) with
  | ok attr => exact .ok trivial
  | error error => exact .invalid rfl

theorem judges_decodeScalar {kind : String} {payload : Json} (hkind : kind ∈ valueKinds.dropLast) :
    Judges DocumentError.category (decodeScalar kind payload) (IsScalar kind payload) := by
  rcases mem_dropLast_valueKinds_iff.1 hkind with rfl | rfl | rfl | rfl
  · exact .ok ⟨fun h ↦ absurd h (by decide), fun h ↦ absurd h (by decide)⟩
  · exact .ok ⟨fun h ↦ absurd h (by decide), fun h ↦ absurd h (by decide)⟩
  · refine (@judges_toInteger payload).ask.map.congr ?_
    simp [IsScalar]
  · refine (@judges_toDouble payload).ask.map.congr ?_
    simp [IsScalar]

/-! ### The first kind of an object -/

/-- The scalar of a value is the one of its first known kind. -/
theorem scalarMember?_eq (members : List (String × Json)) :
    scalarMember? members = (valueKinds.dropLast.find? fun kind ↦ (members.lookup kind).isSome).bind
      fun kind ↦ (members.lookup kind).map (decodeScalar kind) := by
  unfold scalarMember?
  induction valueKinds.dropLast with
  | nil => rfl
  | cons kind kinds ih =>
    rw [List.findSome?_cons, List.find?_cons, ih]
    cases hlookup : members.lookup kind <;> simp [hlookup]

/-- A value has one first kind. -/
theorem IsFirstKind.unique {members : List (String × Json)} {kind kind' : String}
    {payload payload' : Json} (h : IsFirstKind members kind payload)
    (h' : IsFirstKind members kind' payload') : kind = kind' ∧ payload = payload' := by
  obtain rfl := Option.some.inj (h.1.symm.trans h'.1)
  exact ⟨rfl, Option.some.inj (h.2.symm.trans h'.2)⟩

/-- The kind of arrays is looked for last. -/
theorem find?_valueKinds (p : String → Bool) :
    valueKinds.find? p = (valueKinds.dropLast.find? p).or (["arrayValue"].find? p) := by
  rw [← List.find?_append]
  rfl

/-- A first kind other than that of arrays is one of the scalars'. -/
theorem IsFirstKind.mem_of_ne {members : List (String × Json)} {kind : String} {payload : Json}
    (h : IsFirstKind members kind payload) (hkind : kind ≠ "arrayValue") :
    kind ∈ valueKinds.dropLast := by
  have hmem : kind ∈ valueKinds.dropLast ++ ["arrayValue"] := List.mem_of_find?_eq_some h.1
  exact (List.mem_append.1 hmem).resolve_right fun harray ↦ hkind (List.mem_singleton.1 harray)

/-- A value has a first kind or none at all. -/
theorem isFirstKind_or_unknown (members : List (String × Json)) :
    (∃ kind payload, IsFirstKind members kind payload) ∨
      ∀ kind ∈ valueKinds, members.lookup kind = none := by
  cases hfind : valueKinds.find? fun kind ↦ (members.lookup kind).isSome with
  | some kind =>
    have hpresent : (members.lookup kind).isSome = true :=
      List.find?_some (p := fun kind ↦ (members.lookup kind).isSome) hfind
    obtain ⟨payload, hpayload⟩ := Option.isSome_iff_exists.1 hpresent
    exact .inl ⟨kind, payload, hfind, hpayload⟩
  | none =>
    refine .inr fun kind hkind ↦ ?_
    exact Option.not_isSome_iff_eq_none.1 (List.find?_eq_none.1 hfind kind hkind)

/-- An object is read as the kind that counts. -/
theorem decodeValue_of_isFirstKind {members : List (String × Json)} {kind : String}
    {payload : Json} (h : IsFirstKind members kind payload) :
    decodeValue (.obj members) = if kind = "arrayValue" then arrayItems payload >>= sequenceOf
      else decodeScalar kind payload := by
  obtain ⟨hfind, hpayload⟩ := h
  rw [decodeValue, scalarMember?_eq, arrayMember?_eq]
  rw [find?_valueKinds] at hfind
  -- An array counts only if the object has no kind without parts.
  cases hscalar : valueKinds.dropLast.find? fun kind ↦ (members.lookup kind).isSome with
  | some first =>
    rw [hscalar, Option.some_or, Option.some.injEq] at hfind
    subst hfind
    have hkind : first ≠ "arrayValue" := by
      rintro rfl
      exact absurd (List.mem_of_find?_eq_some hscalar) (by decide)
    rw [Option.bind_some, hpayload, Option.map_some, if_neg hkind]
  | none =>
    rw [hscalar, Option.none_or] at hfind
    obtain rfl := List.mem_singleton.1 (List.mem_of_find?_eq_some hfind)
    rw [Option.bind_none, hpayload, Option.map_some, if_pos rfl]

/-- A value of no known kind is refused with the names of its members. -/
theorem decodeValue_of_unknown {members : List (String × Json)}
    (h : ∀ kind ∈ valueKinds, members.lookup kind = none) :
    decodeValue (.obj members) = unsupported (members.map fun member ↦ .str member.1) := by
  have hscalar : valueKinds.dropLast.find? (fun kind ↦ (members.lookup kind).isSome) = none :=
    List.find?_eq_none.2 fun kind hkind ↦ by simp [h kind (List.mem_of_mem_dropLast hkind)]
  rw [decodeValue, scalarMember?_eq, arrayMember?_eq, hscalar, h "arrayValue" (by decide)]
  rfl

/-- The first kind of a value decides about its shape. -/
theorem isAnyValue_iff_of_isFirstKind {members : List (String × Json)} {kind : String}
    {payload : Json} (hfirst : IsFirstKind members kind payload) :
    IsAnyValue (.obj members) ↔ if kind = "arrayValue" then IsArray payload else
      IsScalar kind payload := by
  constructor
  · intro h
    cases h with
    | scalar hkind hfirst' h =>
      obtain ⟨rfl, rfl⟩ := hfirst.unique hfirst'
      rwa [if_neg hkind]
    | absent hfirst' h =>
      obtain ⟨rfl, rfl⟩ := hfirst.unique hfirst'
      rw [if_pos rfl]
      intro hpresent
      exact absurd hpresent (Bool.eq_false_iff.1 h)
    | @array _ contents items hfirst' hitems h =>
      obtain ⟨rfl, rfl⟩ := hfirst.unique hfirst'
      rw [if_pos rfl]
      intro _
      exact ⟨contents, rfl, items, hitems, h⟩
    | unknown h =>
      have hnone := h kind (List.mem_of_find?_eq_some hfirst.1)
      rw [hfirst.2] at hnone
      cases hnone
  · split
    · next hkind =>
      subst hkind
      intro h
      cases hpresent : payload.isTruthy with
      | false => exact .absent hfirst hpresent
      | true =>
        obtain ⟨contents, rfl, items, hitems, hall⟩ := h hpresent
        exact .array hfirst hitems hall
    · next hkind => exact .scalar hkind hfirst

/-! ### Values and their parts -/

/-- What is judged of a document in the places where values are read: it is a value, an array or the
list of the values of an array. -/
structure JudgesValues (document : Json) : Prop where
  value : Judges DocumentError.category (decodeValue document) (IsAnyValue document)
  array : Judges DocumentError.category (arrayItems document) (IsArray document)
  values : Judges DocumentError.category (decodeSequence document) (IsListOf IsAnyValue document)

theorem decodeSequence_eq (document : Json) :
    decodeSequence document = ask document.elements >>= fun items ↦ items.mapM decodeValue := by
  cases document with
  | arr items => rw [decodeSequence, decodeItems_eq]; rfl
  | str text =>
    rw [decodeSequence, Json.elements, ask_ok, ok_bind, List.mapM_map]; rfl
  | obj members =>
    rw [decodeSequence, Json.elements, ask_ok, ok_bind, List.mapM_map]; rfl
  | _ => rfl

theorem judges_decodeValue_obj {members : List (String × Json)}
    (h : ∀ member ∈ members, JudgesValues member.2) :
    Judges DocumentError.category (decodeValue (.obj members)) (IsAnyValue (.obj members)) := by
  rcases isFirstKind_or_unknown members with ⟨kind, payload, hfirst⟩ | hunknown
  · refine .congr ?_ (isAnyValue_iff_of_isFirstKind hfirst).symm
    rw [decodeValue_of_isFirstKind hfirst]
    split
    · have harray := (h _ (Entries.mem_of_lookup hfirst.2)).array
      exact (harray.bind fun items _ ↦ judges_sequenceOf).congr (iff_of_eq (and_true _))
    · next hkind => exact judges_decodeScalar (hfirst.mem_of_ne hkind)
  · rw [decodeValue_of_unknown hunknown]
    refine judges_unsupported.congr (iff_of_true (Value.sorted_texts ?_) (.unknown hunknown))
    intro value hvalue
    obtain ⟨member, -, rfl⟩ := List.mem_map.1 hvalue
    exact ⟨_, rfl⟩

theorem judges_decodeValue_arr {items : List Json} :
    Judges DocumentError.category (decodeValue (.arr items)) (IsAnyValue (.arr items)) := by
  rw [decodeValue]
  split
  · next hnamed =>
    refine .unshaped fun h ↦ ?_
    cases h with
    | items hnames h =>
      obtain ⟨item, hitem, hany⟩ := List.any_eq_true.1 hnamed
      obtain ⟨kind, hkind, heq⟩ := List.any_eq_true.1 hany
      exact hnames item hitem kind hkind (of_decide_eq_true heq)
  · next hunnamed =>
    refine judges_unsupported.congr ⟨?_, ?_⟩
    · rintro ⟨sorted, hsorted⟩
      refine .items (fun item hitem kind hkind heq ↦ hunnamed ?_) hsorted
      exact List.any_eq_true.2 ⟨item, hitem, List.any_eq_true.2 ⟨kind, hkind, decide_eq_true heq⟩⟩
    · intro h
      cases h with
      | @items _ sorted _ hsorted => exact ⟨sorted, hsorted⟩

theorem judges_decodeValue_str {text : String} :
    Judges DocumentError.category (decodeValue (.str text)) (IsAnyValue (.str text)) := by
  rw [decodeValue]
  refine judges_decodeText.congr ⟨.text, ?_⟩
  intro h
  cases h with
  | text h => exact h

theorem judges_arrayItems_obj {members : List (String × Json)}
    (h : ∀ member ∈ members, JudgesValues member.2) :
    Judges DocumentError.category (arrayItems (.obj members)) (IsArray (.obj members)) := by
  rw [arrayItems, valuesMember?_eq]
  cases hvalues : members.lookup "values" with
  | none =>
    refine .ok fun _ ↦ ⟨members, rfl, [], ?_, List.forall_mem_nil _⟩
    rw [memberIn, hvalues]
    rfl
  | some payload =>
    rw [Option.map_some, Option.getD_some]
    refine (h _ (Entries.mem_of_lookup hvalues)).values.congr ?_
    rw [← memberIn_of_lookup hvalues (.arr [])]
    constructor
    · intro hvalues _
      exact ⟨members, rfl, hvalues⟩
    · intro harray
      exact isObjectOf_obj.1 (harray (isTruthy_obj hvalues))

theorem judges_arrayItems_of_not_isObject {document : Json} (h : ¬IsObject document) :
    Judges DocumentError.category (arrayItems document) (IsArray document) := by
  have heq : arrayItems document =
      if document.isTruthy then .error (.shape (.noMembers document.typeName)) else .ok [] := by
    cases document with
    | obj members => exact absurd ⟨members, rfl⟩ h
    | _ => rfl
  rw [heq]
  split
  · next hpresent =>
    refine .unshaped fun harray ↦ ?_
    obtain ⟨members, rfl, -⟩ := harray hpresent
    exact h ⟨members, rfl⟩
  · next habsent => exact .ok fun hpresent ↦ absurd hpresent habsent

theorem judges_decodeSequence {document : Json}
    (h : ∀ items, document.elements = .ok items → ∀ item ∈ items,
      Judges DocumentError.category (decodeValue item) (IsAnyValue item)) :
    Judges DocumentError.category (decodeSequence document) (IsListOf IsAnyValue document) := by
  rw [decodeSequence_eq]
  exact .list ask_eq_ok_iff fun items hitems ↦ .mapM (h items hitems)

/-- A document that is neither an array nor an object has no parts. -/
theorem judgesValues_of_isKey {document : Json} (h : IsKey document) : JudgesValues document where
  value := by
    cases document with
    | arr items => exact absurd rfl (h.1 items)
    | obj members => exact absurd rfl (h.2 members)
    | str text => exact judges_decodeValue_str
    | _ => exact .unshaped nofun
  array := judges_arrayItems_of_not_isObject fun ⟨members, hobject⟩ ↦ h.2 members hobject
  values := by
    refine judges_decodeSequence fun items hitems ↦ ?_
    cases document with
    | arr items => exact absurd rfl (h.1 items)
    | obj members => exact absurd rfl (h.2 members)
    | str text =>
      obtain rfl := Except.ok.inj hitems
      exact List.forall_mem_map.2 fun c _ ↦ judges_decodeValue_str
    | _ => cases hitems

theorem judgesValues_arr {items : List Json} (h : ∀ item ∈ items, JudgesValues item) :
    JudgesValues (.arr items) where
  value := judges_decodeValue_arr
  array := judges_arrayItems_of_not_isObject nofun
  values := by
    refine judges_decodeSequence fun others hothers item hitem ↦ ?_
    obtain rfl := Except.ok.inj hothers
    exact (h item hitem).value

theorem judgesValues_obj {members : List (String × Json)}
    (h : ∀ member ∈ members, JudgesValues member.2) : JudgesValues (.obj members) where
  value := judges_decodeValue_obj h
  array := judges_arrayItems_obj h
  values := by
    refine judges_decodeSequence fun items hitems ↦ ?_
    obtain rfl := Except.ok.inj hitems
    exact List.forall_mem_map.2 fun member _ ↦ judges_decodeValue_str

mutual

/-- Reading a value judges its shape, wherever it stands. -/
theorem judgesValues : (document : Json) → JudgesValues document
  | .arr items => judgesValues_arr (judgesValues_items items)
  | .obj members => judgesValues_obj (judgesValues_members members)
  | .null | .bool _ | .int _ | .double _ | .str _ => judgesValues_of_isKey ⟨nofun, nofun⟩

theorem judgesValues_items : (items : List Json) → ∀ item ∈ items, JudgesValues item
  | [] => nofun
  | item :: items => List.forall_mem_cons.2 ⟨judgesValues item, judgesValues_items items⟩

theorem judgesValues_members :
    (members : List (String × Json)) → ∀ member ∈ members, JudgesValues member.2
  | [] => nofun
  | (_, payload) :: members =>
    List.forall_mem_cons.2 ⟨judgesValues payload, judgesValues_members members⟩

end

end SpanBridge.Otlp
