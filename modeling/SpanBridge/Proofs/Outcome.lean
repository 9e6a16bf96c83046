import Mathlib.Tactic

/-!
# Results of computations that may fail

What a successful result says about the steps that led to it: a sequence of two steps succeeds when
both do (`bind_eq_ok_iff`), a step for each item of a list succeeds when all of them do
(`mapM_eq_ok_iff`), and a property that each step of a fold preserves holds of its result
(`foldlM_invariant`). `Succeeds` is about steps that cannot fail: it says so of a result and what
else is known of it, and is put together step by step (`Succeeds.bind`). `Carries` compares two
computations step by step in the same way (`Carries.bind`): what the one yields the other does too,
up to a relation. `Agrees` compares two computations in both ways: the one fails when the other
does, with an error of the same class (`Agrees.bind`).
-/

set_option autoImplicit false
set_option relaxedAutoImplicit false

namespace SpanBridge

variable {α β ε ε' : Type}

@[simp] theorem ok_bind (value : α) (next : α → Except ε β) :
    (Except.ok value >>= next) = next value := rfl

@[simp] theorem error_bind (error : ε) (next : α → Except ε β) :
    (Except.error error >>= next) = .error error := rfl

@[simp] theorem map_ok (f : α → β) (value : α) :
    (f <$> (Except.ok value : Except ε α)) = .ok (f value) := rfl

@[simp] theorem map_error (f : α → β) (error : ε) :
    (f <$> (Except.error error : Except ε α)) = .error error := rfl

@[simp] theorem mapError_ok (f : ε → ε') (value : α) :
    (Except.ok value : Except ε α).mapError f = .ok value := rfl

@[simp] theorem mapError_error (f : ε → ε') (error : ε) :
    (Except.error error : Except ε α).mapError f = .error (f error) := rfl

theorem pure_eq_ok (value : α) : (pure value : Except ε α) = .ok value := rfl

theorem throw_eq_error (error : ε) : (throw error : Except ε α) = .error error := rfl

/-- Two steps succeed exactly when the first does and the second does with its result. -/
theorem bind_eq_ok_iff {first : Except ε α} {next : α → Except ε β} {result : β} :
    (first >>= next) = .ok result ↔ ∃ value, first = .ok value ∧ next value = .ok result := by
  cases first <;> simp

/-- Two steps fail where the first does or the second does with the result of the first. -/
theorem bind_eq_error_iff {first : Except ε α} {next : α → Except ε β} {error : ε} :
    first >>= next = .error error ↔
      first = .error error ∨ ∃ value, first = .ok value ∧ next value = .error error := by
  cases first <;> simp

theorem map_eq_ok_iff {f : α → β} {attempt : Except ε α} {result : β} :
    f <$> attempt = .ok result ↔ ∃ value, attempt = .ok value ∧ f value = result := by
  cases attempt <;> simp

theorem mapError_eq_ok_iff {f : ε → ε'} {attempt : Except ε α} {value : α} :
    attempt.mapError f = .ok value ↔ attempt = .ok value := by
  cases attempt <;> simp

theorem mapError_eq_error_iff {f : ε → ε'} {attempt : Except ε α} {error : ε'} :
    attempt.mapError f = .error error ↔ ∃ cause, attempt = .error cause ∧ f cause = error := by
  cases attempt <;> simp

theorem toOption_eq_some_iff {attempt : Except ε α} {value : α} :
    attempt.toOption = some value ↔ attempt = .ok value := by
  cases attempt <;> simp [Except.toOption]

theorem exists_of_toBool {attempt : Except ε α} (h : attempt.toBool = true) :
    ∃ value, attempt = .ok value := by
  cases attempt with
  | error error => cases h
  | ok value => exact ⟨value, rfl⟩

/-- A computation that first refuses under a condition. -/
theorem refuse_eq_ok_iff {condition : Prop} [Decidable condition] {error : ε} {next : Except ε α}
    {result : α} :
    (if condition then (throw error : Except ε PUnit) >>= fun _ ↦ next else next) = .ok result ↔
      ¬condition ∧ next = .ok result := by
  by_cases hcondition : condition <;> simp [hcondition, throw_eq_error]

/-- Two guards that refuse alike, and yield related results where they do not refuse. -/
theorem guard_eq_map {first second : Prop} [Decidable first] [Decidable second] {error : ε}
    {f : α → β} {next : ¬first → Except ε α} {next' : ¬second → Except ε β}
    (hsame : second ↔ first) (h : ∀ hfirst hsecond, next' hsecond = f <$> next hfirst) :
    (if hsecond : second then .error error else next' hsecond) =
      f <$> if hfirst : first then .error error else next hfirst := by
  by_cases hfirst : first
  · rw [dif_pos hfirst, dif_pos (hsame.2 hfirst)]
    rfl
  · have hsecond : ¬second := hfirst ∘ hsame.1
    rw [dif_neg hfirst, dif_neg hsecond]
    exact h hfirst hsecond

/-- A step that depends on a condition. -/
theorem choose_bind_eq_ok_iff {condition : Prop} [Decidable condition] {first second : Except ε α}
    {next : α → Except ε β} {result : β} :
    (if condition then first >>= next else second >>= next) = .ok result ↔
      ∃ value, (if condition then first else second) = .ok value ∧ next value = .ok result := by
  by_cases hcondition : condition <;> simp [hcondition, bind_eq_ok_iff]

/-- Steps on a list succeed exactly when each of them does. -/
theorem mapM_eq_ok_iff {f : α → Except ε β} {items : List α} {results : List β} :
    items.mapM f = .ok results ↔
      List.Forall₂ (fun item result ↦ f item = .ok result) items results := by
  induction items generalizing results with
  | nil => cases results <;> simp [pure_eq_ok]
  | cons item items ih =>
    simp only [List.mapM_cons, bind_eq_ok_iff, pure_eq_ok, Except.ok.injEq, ih]
    constructor
    · rintro ⟨result, hresult, others, hothers, rfl⟩
      exact .cons hresult hothers
    · rintro (_ | ⟨hresult, hothers⟩)
      exact ⟨_, hresult, _, hothers, rfl⟩

theorem mapM_eq_some_iff {α β : Type} {f : α → Option β} {items : List α} {results : List β} :
    items.mapM f = some results ↔
      List.Forall₂ (fun result item ↦ f item = some result) results items := by
  induction items generalizing results with
  | nil => cases results <;> simp
  | cons item items ih =>
    simp only [List.mapM_cons, Option.bind_eq_bind, Option.bind_eq_some_iff, Option.pure_def,
      Option.some.injEq, ih]
    constructor
    · rintro ⟨result, hresult, others, hothers, rfl⟩
      exact .cons hresult hothers
    · rintro (_ | ⟨hresult, hothers⟩)
      exact ⟨_, hresult, _, hothers, rfl⟩

/-- A step for each item that always succeeds maps the list. -/
theorem mapM_eq_ok_map {f : α → Except ε β} {g : α → β} {items : List α}
    (h : ∀ item ∈ items, f item = .ok (g item)) : items.mapM f = .ok (items.map g) := by
  induction items with
  | nil => rfl
  | cons item items ih =>
    rw [List.mapM_cons, h item (by simp), ok_bind,
      ih fun other hother ↦ h other (List.mem_cons_of_mem _ hother)]
    rfl

/-- Steps for two lists that agree item by item have one result. -/
theorem mapM_eq_of_forall₂ {α' : Type} {f : α → Except ε β} {g : α' → Except ε β} {items : List α}
    {items' : List α'} (h : List.Forall₂ (fun item item' ↦ f item = g item') items items') :
    items.mapM f = items'.mapM g := by
  induction h with
  | nil => rfl
  | cons hhead _ ih => rw [List.mapM_cons, List.mapM_cons, hhead, ih]

theorem mapM_congr {f g : α → Except ε β} {items : List α} (h : ∀ item ∈ items, f item = g item) :
    items.mapM f = items.mapM g :=
  mapM_eq_of_forall₂ (List.forall₂_same.2 h)

/-- What becomes of the result of each step becomes of the list of results. -/
theorem mapM_map_results {γ : Type} (f : α → Except ε β) (g : β → γ) (items : List α) :
    (items.mapM fun item ↦ g <$> f item) = List.map g <$> items.mapM f := by
  induction items with
  | nil => rfl
  | cons item items ih =>
    rw [List.mapM_cons, List.mapM_cons, ih]
    cases f item with
    | error error => rfl
    | ok result => cases items.mapM f <;> rfl

/-- Items related in two steps, through a list in between. -/
theorem exists_forall₂_comp {α β γ : Type} {R : α → β → Prop} {S : β → γ → Prop} {items : List α}
    {results : List γ} :
    (∃ between, List.Forall₂ R items between ∧ List.Forall₂ S between results) ↔
      List.Forall₂ (Relation.Comp R S) items results := by
  constructor
  · rintro ⟨between, hfirst, hsecond⟩
    induction hfirst generalizing results with
    | nil =>
      cases hsecond
      exact .nil
    | cons hitem _ ih =>
      cases hsecond with
      | cons hresult hresults => exact .cons ⟨_, hitem, hresult⟩ (ih hresults)
  · intro h
    induction h with
    | nil => exact ⟨[], .nil, .nil⟩
    | cons hitem _ ih =>
      obtain ⟨middle, hfirst, hsecond⟩ := hitem
      obtain ⟨between, hfirsts, hseconds⟩ := ih
      exact ⟨middle :: between, .cons hfirst hfirsts, .cons hsecond hseconds⟩

/-- Two computations one after the other, and what they yield in a row. -/
def inTurn (first second : Except ε (List α)) : Except ε (List α) := do
  return (← first) ++ (← second)

/-- Two lists are made in turn exactly when both are made. -/
theorem inTurn_eq_ok_iff {first second : Except ε (List α)} {results : List α} :
    inTurn first second = .ok results ↔
      ∃ before after, first = .ok before ∧ second = .ok after ∧ results = before ++ after := by
  cases first <;> cases second <;> simp [inTurn, pure_eq_ok, eq_comm]

/-- A step with several results for each item of two lists. -/
theorem flatten_mapM_append (f : α → Except ε (List β)) (items others : List α) :
    List.flatten <$> (items ++ others).mapM f =
      inTurn (List.flatten <$> items.mapM f) (List.flatten <$> others.mapM f) := by
  rw [List.mapM_append]
  cases items.mapM f with
  | error error => rfl
  | ok lists =>
    cases others.mapM f with
    | error error => rfl
    | ok lists' => exact congrArg Except.ok List.flatten_append

theorem flatten_mapM_cons_nil (f : α → Except ε (List β)) (item : α) :
    List.flatten <$> [item].mapM f = f item := by
  rw [List.mapM_cons, List.mapM_nil]
  cases f item with
  | error error => rfl
  | ok results => exact congrArg Except.ok (List.append_nil results)

theorem exists_forall₂ {R : α → β → Prop} {items : List α}
    (h : ∀ item ∈ items, ∃ result, R item result) : ∃ results, List.Forall₂ R items results := by
  induction items with
  | nil => exact ⟨[], .nil⟩
  | cons item items ih =>
    obtain ⟨result, hresult⟩ := h item List.mem_cons_self
    obtain ⟨results, hresults⟩ := ih fun other hother ↦ h other (List.mem_cons_of_mem _ hother)
    exact ⟨result :: results, .cons hresult hresults⟩

theorem exists_mem_of_forall₂ {R : α → β → Prop} {items : List α} {results : List β}
    (h : List.Forall₂ R items results) {result : β} (hresult : result ∈ results) :
    ∃ item ∈ items, R item result := by
  induction h with
  | nil => cases hresult
  | cons hhead _ ih =>
    rcases List.mem_cons.1 hresult with rfl | hresult
    · exact ⟨_, List.mem_cons_self, hhead⟩
    · obtain ⟨item, hitem, hrel⟩ := ih hresult
      exact ⟨item, List.mem_cons_of_mem _ hitem, hrel⟩

/-- A relation that is another one on items with a property relates lists in the same way. -/
theorem forall₂_iff_and {R R' : α → β → Prop} {P : α → Prop}
    (h : ∀ item result, R' item result ↔ R item result ∧ P item) {items : List α}
    {results : List β} :
    List.Forall₂ R' items results ↔ List.Forall₂ R items results ∧ ∀ item ∈ items, P item := by
  have hrelation : R' = fun item result ↦ P item ∧ R item result := by
    funext item result
    exact propext ((h item result).trans and_comm)
  rw [hrelation, List.forall₂_and_left, and_comm]

/-- Every result of a step for each item comes from one of the items. -/
theorem exists_mem_of_mapM_eq_ok {f : α → Except ε β} {items : List α} {results : List β}
    (h : items.mapM f = .ok results) {result : β} (hresult : result ∈ results) :
    ∃ item ∈ items, f item = .ok result :=
  exists_mem_of_forall₂ (mapM_eq_ok_iff.1 h) hresult

/-- A step for each item that fails does so at one of the items. -/
theorem exists_mem_of_mapM_eq_error {f : α → Except ε β} {items : List α} {error : ε}
    (h : items.mapM f = .error error) : ∃ item ∈ items, f item = .error error := by
  induction items with
  | nil => cases h
  | cons item items ih =>
    rw [List.mapM_cons, bind_eq_error_iff] at h
    rcases h with h | ⟨_, -, h⟩
    · exact ⟨item, List.mem_cons_self, h⟩
    · rcases bind_eq_error_iff.1 h with h | ⟨_, -, h⟩
      · obtain ⟨other, hother, herror⟩ := ih h
        exact ⟨other, List.mem_cons_of_mem _ hother, herror⟩
      · cases h

/-- An invariant that each step preserves holds at the end of a fold that succeeds. -/
theorem foldlM_invariant {f : β → α → Except ε β} {items : List α} {start result : β}
    (invariant : β → Prop) (h : items.foldlM f start = .ok result) (hstart : invariant start)
    (hstep : ∀ state item, item ∈ items → invariant state → ∀ next, f state item = .ok next →
      invariant next) :
    invariant result := by
  induction items generalizing start with
  | nil =>
    obtain rfl := Except.ok.inj h
    exact hstart
  | cons item items ih =>
    obtain ⟨next, hnext, hrest⟩ := bind_eq_ok_iff.1 h
    exact ih hrest (hstep start item (by simp) hstart next hnext)
      fun state other hother ↦ hstep state other (List.mem_cons_of_mem _ hother)

/-! ### Attempts that succeed -/

/-- An attempt that succeeds, with a result that has a property. -/
def Succeeds (attempt : Except ε α) (holds : α → Prop) : Prop :=
  ∃ result, attempt = .ok result ∧ holds result

/-- Two steps succeed where the second does with every result of the first. -/
theorem Succeeds.bind {attempt : Except ε α} {next : α → Except ε β} {P : α → Prop}
    {Q : β → Prop} (h : Succeeds attempt P)
    (hnext : ∀ result, P result → Succeeds (next result) Q) : Succeeds (attempt >>= next) Q := by
  obtain ⟨result, rfl, hresult⟩ := h
  exact hnext result hresult

theorem Succeeds.ok {result : α} {P : α → Prop} (h : P result) :
    Succeeds (.ok result : Except ε α) P :=
  ⟨result, rfl, h⟩

/-- A fold succeeds where each step does from a state with the invariant. -/
theorem Succeeds.foldlM {f : β → α → Except ε β} {items : List α} {start : β} {P : β → Prop}
    (hstart : P start) (hstep : ∀ state item, item ∈ items → P state → Succeeds (f state item) P) :
    Succeeds (items.foldlM f start) P := by
  induction items generalizing start with
  | nil => exact .ok hstart
  | cons item items ih =>
    refine (hstep start item List.mem_cons_self hstart).bind fun next hnext ↦ ?_
    exact ih hnext fun state other hother ↦ hstep state other (List.mem_cons_of_mem _ hother)

/-! ### Related attempts -/

/-- Where an attempt succeeds another one does too, and their results are related. -/
def Carries {α' : Type} (R : α → α' → Prop) (attempt : Except ε α) (attempt' : Except ε α') :
    Prop :=
  ∀ result, attempt = .ok result → ∃ result', attempt' = .ok result' ∧ R result result'

namespace Carries

variable {α' β' : Type} {R : α → α' → Prop} {S : β → β' → Prop}

theorem refl (attempt : Except ε α) : Carries Eq attempt attempt :=
  fun result h ↦ ⟨result, h, rfl⟩

theorem ok {result : α} {result' : α'} (h : R result result') :
    Carries R (.ok result : Except ε α) (.ok result') := by
  rintro _ ⟨⟩
  exact ⟨result', rfl, h⟩

theorem of_ne_ok {attempt : Except ε α} {attempt' : Except ε α'}
    (h : ∀ result, attempt ≠ .ok result) : Carries R attempt attempt' :=
  fun result hresult ↦ absurd hresult (h result)

theorem bind {attempt : Except ε α} {attempt' : Except ε α'} {next : α → Except ε β}
    {next' : α' → Except ε β'} (h : Carries R attempt attempt')
    (hnext : ∀ result result', R result result' → Carries S (next result) (next' result')) :
    Carries S (attempt >>= next) (attempt' >>= next') := by
  intro final hfinal
  obtain ⟨result, rfl, hfinal⟩ := bind_eq_ok_iff.1 hfinal
  obtain ⟨result', rfl, hresult⟩ := h result rfl
  exact hnext result result' hresult final hfinal

/-- Two attempts that begin alike. -/
theorem bind_same {attempt : Except ε α} {next : α → Except ε β} {next' : α → Except ε β'}
    (hnext : ∀ result, Carries S (next result) (next' result)) :
    Carries S (attempt >>= next) (attempt >>= next') :=
  (refl attempt).bind fun result _ h ↦ h ▸ hnext result

theorem map {attempt : Except ε α} {attempt' : Except ε α'} {f : α → β} {f' : α' → β'}
    (h : Carries R attempt attempt') (hmap : ∀ result result', R result result' →
      S (f result) (f' result')) : Carries S (f <$> attempt) (f' <$> attempt') := by
  intro _ hfinal
  obtain ⟨result, rfl, rfl⟩ := map_eq_ok_iff.1 hfinal
  obtain ⟨result', rfl, hresult⟩ := h result rfl
  exact ⟨f' result', rfl, hmap result result' hresult⟩

theorem mapError {f : ε → ε'} {attempt : Except ε α} {attempt' : Except ε α'}
    (h : Carries R attempt attempt') : Carries R (attempt.mapError f) (attempt'.mapError f) := by
  intro result hresult
  obtain ⟨result', rfl, hresult⟩ := h result (mapError_eq_ok_iff.1 hresult)
  exact ⟨result', rfl, hresult⟩

theorem mapM {f : α → Except ε β} {f' : α' → Except ε β'} {items : List α} {items' : List α'}
    (h : List.Forall₂ (fun item item' ↦ Carries S (f item) (f' item')) items items') :
    Carries (List.Forall₂ S) (items.mapM f) (items'.mapM f') := by
  induction h with
  | nil => exact .ok .nil
  | cons hhead _ ih =>
    rw [List.mapM_cons, List.mapM_cons]
    exact hhead.bind fun _ _ hfirst ↦ ih.bind fun _ _ hothers ↦ .ok (.cons hfirst hothers)

theorem foldlM {f : β → α → Except ε β} {f' : β → α' → Except ε β} {items : List α}
    {items' : List α'}
    (h : List.Forall₂ (fun item item' ↦ ∀ state, Carries Eq (f state item) (f' state item')) items
      items') (start : β) : Carries Eq (items.foldlM f start) (items'.foldlM f' start) := by
  induction h generalizing start with
  | nil => exact .refl _
  | cons hhead _ ih =>
    rw [List.foldlM_cons, List.foldlM_cons]
    exact (hhead start).bind fun state _ hstate ↦ hstate ▸ ih state

theorem inTurn {first second : Except ε (List α)} {first' second' : Except ε (List α')}
    (hfirst : Carries (List.Forall₂ R) first first')
    (hsecond : Carries (List.Forall₂ R) second second') :
    Carries (List.Forall₂ R) (inTurn first second) (inTurn first' second') :=
  hfirst.bind fun _ _ hbefore ↦ hsecond.bind fun _ _ hafter ↦ .ok (List.rel_append hbefore hafter)

end Carries

/-! ### Attempts that agree -/

/-- Two attempts that both succeed, with related results, or both fail, with errors of one class. -/
inductive Agrees {α' κ : Type} (classOf : ε → κ) (R : α → α' → Prop) :
    Except ε α → Except ε α' → Prop where
  | ok {result : α} {result' : α'} (h : R result result') :
    Agrees classOf R (.ok result) (.ok result')
  | error {error error' : ε} (h : classOf error' = classOf error) :
    Agrees classOf R (.error error) (.error error')

namespace Agrees

variable {α' β' κ : Type} {classOf : ε → κ} {R : α → α' → Prop} {S : β → β' → Prop}

theorem refl {R : α → α → Prop} (h : ∀ result, R result result) (attempt : Except ε α) :
    Agrees classOf R attempt attempt := by
  cases attempt with
  | error error => exact .error rfl
  | ok result => exact .ok (h result)

theorem bind {attempt : Except ε α} {attempt' : Except ε α'} {next : α → Except ε β}
    {next' : α' → Except ε β'} (h : Agrees classOf R attempt attempt')
    (hnext : ∀ result result', R result result' → Agrees classOf S (next result) (next' result')) :
    Agrees classOf S (attempt >>= next) (attempt' >>= next') := by
  cases h with
  | ok h => exact hnext _ _ h
  | error h => exact .error h

/-- Two attempts that begin alike. -/
theorem bind_same {attempt : Except ε α} {next : α → Except ε β} {next' : α → Except ε β'}
    (hnext : ∀ result, Agrees classOf S (next result) (next' result)) :
    Agrees classOf S (attempt >>= next) (attempt >>= next') :=
  (refl (fun _ ↦ rfl) attempt).bind fun result _ h ↦ h ▸ hnext result

/-- Two attempts whose first step is chosen alike. -/
theorem choose_bind_same {condition : Prop} [Decidable condition] {first second : Except ε α}
    {next : α → Except ε β} {next' : α → Except ε β'}
    (hnext : ∀ result, Agrees classOf S (next result) (next' result)) :
    Agrees classOf S (if condition then first >>= next else second >>= next)
      (if condition then first >>= next' else second >>= next') := by
  split
  · exact .bind_same hnext
  · exact .bind_same hnext

theorem map {attempt : Except ε α} {attempt' : Except ε α'} {f : α → β} {f' : α' → β'}
    (h : Agrees classOf R attempt attempt') (hmap : ∀ result result', R result result' →
      S (f result) (f' result')) : Agrees classOf S (f <$> attempt) (f' <$> attempt') := by
  cases h with
  | ok h => exact .ok (hmap _ _ h)
  | error h => exact .error h

/-- Errors that are wrapped stay in one class. -/
theorem mapError {classOf : ε' → κ} {f : ε → ε'} {attempt : Except ε α}
    {attempt' : Except ε α'} (h : Agrees (classOf ∘ f) R attempt attempt') :
    Agrees classOf R (attempt.mapError f) (attempt'.mapError f) := by
  cases h with
  | ok h => exact .ok h
  | error h => exact .error h

theorem mapM {f : α → Except ε β} {f' : α' → Except ε β'} {items : List α} {items' : List α'}
    (h : List.Forall₂ (fun item item' ↦ Agrees classOf S (f item) (f' item')) items items') :
    Agrees classOf (List.Forall₂ S) (items.mapM f) (items'.mapM f') := by
  induction h with
  | nil => exact .ok .nil
  | cons hhead _ ih =>
    rw [List.mapM_cons, List.mapM_cons]
    exact hhead.bind fun _ _ hfirst ↦ ih.bind fun _ _ hothers ↦ .ok (.cons hfirst hothers)

theorem inTurn {first second : Except ε (List α)} {first' second' : Except ε (List α')}
    (hfirst : Agrees classOf (List.Forall₂ R) first first')
    (hsecond : Agrees classOf (List.Forall₂ R) second second') :
    Agrees classOf (List.Forall₂ R) (inTurn first second) (inTurn first' second') :=
  hfirst.bind fun _ _ hbefore ↦ hsecond.bind fun _ _ hafter ↦ .ok (List.rel_append hbefore hafter)

/-- Attempts that agree on their results differ in nothing but the errors of a class. -/
theorem mapError_eq {attempt attempt' : Except ε α} (h : Agrees classOf Eq attempt attempt') :
    attempt'.mapError classOf = attempt.mapError classOf := by
  cases h with
  | ok h => rw [h]
  | error h => rw [mapError_error, mapError_error, h]

end Agrees

end SpanBridge
