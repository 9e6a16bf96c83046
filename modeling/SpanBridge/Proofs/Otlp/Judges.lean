import SpanBridge.Proofs.Otlp.Shaped

/-!
# Attempts that judge a shape

An attempt judges a shape if it succeeds on this shape only and fails on it only for what is
invalid. `Judges` says so of an attempt, the shape as a proposition. It is kept by the ways in which
steps are put together (`Judges.bind`, `Judges.refuse`, `Judges.mapM`, `Judges.foldlM`), so that
what a sequence of steps judges is read off its steps, and it holds of the requests of
`SpanBridge.Otlp.Shape`.
-/

set_option autoImplicit false
set_option relaxedAutoImplicit false

namespace SpanBridge.Otlp

/-- An attempt that judges a shape: it succeeds on this shape only, and whenever it fails on it, it
does so for what is invalid. -/
structure Judges {α ε : Type} (category : ε → Category) (attempt : Except ε α) (shape : Prop) :
    Prop where
  shape_of_ok : ∀ {value : α}, attempt = .ok value → shape
  invalid_of_error : ∀ {error : ε}, attempt = .error error → shape → category error = .invalid

namespace Judges

variable {α β ε ε' : Type} {category : ε → Category} {attempt : Except ε α} {shape shape' : Prop}

theorem ok {value : α} (h : shape) : Judges category (.ok value) shape :=
  ⟨fun _ ↦ h, nofun⟩

theorem invalid {error : ε} (h : category error = .invalid) :
    Judges category (.error error : Except ε α) shape := by
  refine ⟨nofun, ?_⟩
  rintro _ ⟨⟩ -
  exact h

/-- Any error is right where the shape is missing. -/
theorem unshaped {error : ε} (h : ¬shape) : Judges category (.error error : Except ε α) shape :=
  ⟨nofun, fun _ hshape ↦ absurd hshape h⟩

theorem congr (h : Judges category attempt shape) (hshape : shape ↔ shape') :
    Judges category attempt shape' :=
  ⟨fun hok ↦ hshape.1 (h.shape_of_ok hok),
    fun herror hshape' ↦ h.invalid_of_error herror (hshape.2 hshape')⟩

/-- Two steps judge both shapes together. -/
theorem bind {next : α → Except ε β} (h : Judges category attempt shape)
    (hnext : ∀ value, attempt = .ok value → Judges category (next value) shape') :
    Judges category (attempt >>= next) (shape ∧ shape') := by
  cases attempt with
  | ok value =>
    have hshape := h.shape_of_ok rfl
    exact (hnext value rfl).congr ⟨fun hshape' ↦ ⟨hshape, hshape'⟩, And.right⟩
  | error error =>
    refine ⟨nofun, ?_⟩
    rintro _ ⟨⟩ hboth
    exact h.invalid_of_error rfl hboth.1

/-- What is made of a result changes neither when an attempt succeeds nor how it fails. -/
theorem map {f : α → β} (h : Judges category attempt shape) :
    Judges category (f <$> attempt) shape := by
  cases attempt with
  | ok value => exact ok (h.shape_of_ok rfl)
  | error error =>
    refine ⟨nofun, ?_⟩
    rintro _ ⟨⟩ hshape
    exact h.invalid_of_error rfl hshape

theorem mapError {category' : ε' → Category} {f : ε → ε'} (h : Judges category attempt shape)
    (hf : ∀ error, category' (f error) = category error) :
    Judges category' (attempt.mapError f) shape := by
  constructor
  · intro value hvalue
    exact h.shape_of_ok (mapError_eq_ok_iff.1 hvalue)
  · intro error herror hshape
    obtain ⟨cause, hcause, rfl⟩ := mapError_eq_error_iff.1 herror
    rw [hf]
    exact h.invalid_of_error hcause hshape

/-- A guard that refuses something invalid. -/
theorem refuse {condition : Prop} [Decidable condition] {error : ε}
    (herror : category error = .invalid) (h : ¬condition → Judges category attempt shape) :
    Judges category
      (if condition then (throw error : Except ε PUnit) >>= fun _ ↦ attempt else attempt)
      shape := by
  split
  · exact invalid herror
  · next hcondition => exact h hcondition

/-- A step that depends on a condition. -/
theorem choose {condition : Prop} [Decidable condition] {first second : Except ε α}
    {next : α → Except ε β} (h : Judges category (if condition then first else second) shape)
    (hnext : ∀ value, Judges category (next value) shape') :
    Judges category (if condition then first >>= next else second >>= next) (shape ∧ shape') := by
  split at h <;> rename_i hcondition
  · rw [if_pos hcondition]
    exact h.bind fun value _ ↦ hnext value
  · rw [if_neg hcondition]
    exact h.bind fun value _ ↦ hnext value

/-- Something that is found or refused as invalid. -/
theorem found {found : Option α} {error : ε} (h : category error = .invalid) :
    Judges category (found.elim (.error error) .ok) True := by
  cases found with
  | none => exact invalid h
  | some value => exact ok trivial

theorem mapM {f : α → Except ε β} {P : α → Prop} {items : List α}
    (h : ∀ item ∈ items, Judges category (f item) (P item)) :
    Judges category (items.mapM f) (∀ item ∈ items, P item) := by
  induction items with
  | nil => exact ok (List.forall_mem_nil P)
  | cons item items ih =>
    obtain ⟨hitem, hitems⟩ := List.forall_mem_cons.1 h
    rw [List.mapM_cons]
    exact (hitem.bind fun _ _ ↦ (ih hitems).map).congr List.forall_mem_cons.symm

theorem foldlM {f : β → α → Except ε β} {P : α → Prop} {items : List α} {start : β}
    (h : ∀ state, ∀ item ∈ items, Judges category (f state item) (P item)) :
    Judges category (items.foldlM f start) (∀ item ∈ items, P item) := by
  induction items generalizing start with
  | nil => exact ok (List.forall_mem_nil P)
  | cons item items ih =>
    have hitems : ∀ state, ∀ other ∈ items, Judges category (f state other) (P other) :=
      fun state other hother ↦ h state other (List.mem_cons_of_mem _ hother)
    exact ((h start item List.mem_cons_self).bind fun _ _ ↦ ih hitems).congr
      List.forall_mem_cons.symm

end Judges

/-! ### Requests -/

section Requests

variable {β : Type} {document : Json}

theorem Judges.ask {attempt : Except ShapeError β} {shape : Prop}
    (h : Judges ShapeError.category attempt shape) :
    Judges DocumentError.category (Otlp.ask attempt) shape :=
  h.mapError fun _ ↦ rfl

theorem judges_toInteger : Judges ShapeError.category document.toInteger (IsFinite document) := by
  cases document with
  | double number =>
    cases number with
    | infinite negative => exact .unshaped fun h ↦ h negative rfl
    | nan => exact .invalid rfl
    | finite =>
      refine .ok ?_
      rintro _ ⟨⟩
  | str text =>
    have hfinite : IsFinite (.str text) := by rintro _ ⟨⟩
    rw [Json.toInteger]
    cases Number.readInteger? text with
    | none => exact .invalid rfl
    | some number => exact .ok hfinite
  | int | bool =>
    refine .ok ?_
    rintro _ ⟨⟩
  | _ => exact .invalid rfl

theorem judges_toDouble : Judges ShapeError.category document.toDouble (IsNumeric document) := by
  cases document with
  | double number => exact .ok (.double number)
  | int number =>
    rw [Json.toDouble]
    cases hdouble : Double.ofInt? number with
    | none =>
      refine .unshaped fun h ↦ ?_
      cases h with
      | int hsome => exact Option.some_ne_none _ (hsome.symm.trans hdouble)
    | some double => exact .ok (.int hdouble)
  | bool truth => cases truth <;> exact .ok (.bool _)
  | str text =>
    rw [Json.toDouble]
    cases Number.readDouble? text with
    | none => exact .invalid rfl
    | some number => exact .ok (.str text)
  | _ => exact .unshaped nofun

theorem judges_small : Judges ShapeError.category document.small document.IsString := by
  cases document with
  | str text => exact .ok ⟨text, rfl⟩
  | _ => exact .unshaped nofun

theorem judges_toKey : Judges ShapeError.category document.toKey (IsKey document) := by
  cases document with
  | arr items => exact .unshaped fun h ↦ h.1 items rfl
  | obj members => exact .unshaped fun h ↦ h.2 members rfl
  | _ => exact .ok ⟨nofun, nofun⟩

end Requests

/-! ### Lists and members -/

/-- A document with items is a list of a shape exactly when its items have it. -/
theorem isListOf_iff {document : Json} {items : List Json} {P : Json → Prop}
    (h : document.elements = .ok items) : IsListOf P document ↔ ∀ item ∈ items, P item := by
  constructor
  · rintro ⟨others, hothers, hall⟩
    obtain rfl := Except.ok.inj (h.symm.trans hothers)
    exact hall
  · intro hall
    exact ⟨items, h, hall⟩

/-- A step for the items of a list. -/
theorem Judges.list {β ε : Type} {category : ε → Category} {attempt : Except ε (List Json)}
    {next : List Json → Except ε β} {document : Json} {P : Json → Prop}
    (hattempt : ∀ {items}, attempt = .ok items ↔ document.elements = .ok items)
    (hnext : ∀ items, document.elements = .ok items →
      Judges category (next items) (∀ item ∈ items, P item)) :
    Judges category (attempt >>= next) (IsListOf P document) := by
  cases attempt with
  | ok items =>
    have hitems : document.elements = .ok items := hattempt.1 rfl
    exact (hnext items hitems).congr (isListOf_iff hitems).symm
  | error error =>
    refine .unshaped ?_
    rintro ⟨items, hitems, -⟩
    cases hattempt.2 hitems

/-- A step for the items of a list with more to follow. -/
theorem Judges.listBind {α β ε : Type} {category : ε → Category} {attempt : Except ε (List Json)}
    {step : List Json → Except ε α} {next : α → Except ε β} {document : Json} {P : Json → Prop}
    {shape : Prop} (hattempt : ∀ {items}, attempt = .ok items ↔ document.elements = .ok items)
    (hstep : ∀ items, document.elements = .ok items →
      Judges category (step items) (∀ item ∈ items, P item))
    (hnext : ∀ value, Judges category (next value) shape) :
    Judges category (attempt >>= fun items ↦ step items >>= next)
      (IsListOf P document ∧ shape) := by
  rw [← bind_assoc]
  exact (list hattempt hstep).bind fun value _ ↦ hnext value

theorem isObjectOf_obj {members : List (String × Json)} {P : List (String × Json) → Prop} :
    IsObjectOf P (.obj members) ↔ P members := by
  constructor
  · rintro ⟨_, ⟨⟩, h⟩
    exact h
  · intro h
    exact ⟨members, rfl, h⟩

end SpanBridge.Otlp
