import SpanBridge.Proofs.Tags

/-!
# Passes over tags

A pass writes some tags (`TagPass.writes`) over those that are there, and what it writes depends on
them only in whether they name an error. `applyAll_eq_ok` says so of a run: it is a fold of writes
as long as all counts can be written, and it has no result otherwise (`applyAll_eq_error`). `Keeps`
says what a run leaves as it was. One pass keeps it (`keeps_write`), and so do passes one after
another (`Keeps.trans`), so every run does (`applyAll_keeps`).
-/

set_option autoImplicit false
set_option relaxedAutoImplicit false

namespace SpanBridge.Zipkin

/-- What a pass is about. -/
inductive PassKind where
  | scope
  | status
  | drops
  deriving DecidableEq, Repr

/-- The names under which the passes of a kind write. -/
def PassKind.names : PassKind → List Value
  | .scope => [scopeNameTag, scopeVersionTag, libraryNameTag, libraryVersionTag]
  | .status => [statusTag, errorTag]
  | .drops => [droppedAttributesTag, droppedEventsTag]

namespace TagPass

def kind : TagPass → PassKind
  | .scope _ => .scope
  | .status _ => .status
  | .drops _ _ => .drops

/-- The tags after the writes of a pass. -/
def write (tags : Mapping) (pass : TagPass) : Mapping :=
  tags.insertAll (pass.writes (tags.contains errorTag))

/-- The counts of a pass that are positive can be written. -/
def IsWritable : TagPass → Prop
  | .scope _ | .status _ => True
  | .drops attributes events =>
    (0 < attributes → Number.WithinLimit attributes) ∧ (0 < events → Number.WithinLimit events)

instance (pass : TagPass) : Decidable pass.IsWritable :=
  match pass with
  | .scope _ | .status _ => inferInstanceAs (Decidable True)
  | .drops _ _ => inferInstanceAs (Decidable (_ ∧ _))

/-! ### A run is a fold of writes -/

theorem apply_eq_ok {pass : TagPass} (tags : Mapping) (h : pass.IsWritable) :
    apply tags pass = .ok (write tags pass) := by
  cases pass with
  | scope origin => exact congrArg Except.ok (scopeTags_eq origin tags _)
  | status outcome => exact congrArg Except.ok (statusTags_eq outcome tags)
  | drops attributes events =>
    rw [apply, dropTags, countTag_eq_ok_iff.2 ⟨h.1, rfl⟩, ok_bind, countTag_eq_ok_iff.2 ⟨h.2, rfl⟩,
      ← Mapping.insertAll_append]
    rfl

/-- A pass with a number of too many digits is refused. -/
theorem apply_eq_error {pass : TagPass} (tags : Mapping) (h : ¬pass.IsWritable) :
    apply tags pass = .error (.tooManyDigits .writing) := by
  cases pass with
  | scope origin => exact absurd trivial h
  | status outcome => exact absurd trivial h
  | drops attributes events =>
    rw [apply, dropTags]
    by_cases hattributes : 0 < attributes → Number.WithinLimit attributes
    · rw [countTag_eq_ok_iff.2 ⟨hattributes, rfl⟩, ok_bind,
        countTag_eq_error _ fun hevents ↦ h ⟨hattributes, hevents⟩]
    · rw [countTag_eq_error _ hattributes, error_bind]

theorem applyAll_eq_ok {passes : List TagPass} (tags : Mapping)
    (h : ∀ pass ∈ passes, pass.IsWritable) :
    applyAll tags passes = .ok (passes.foldl write tags) := by
  induction passes generalizing tags with
  | nil => rfl
  | cons pass passes ih =>
    obtain ⟨hpass, hpasses⟩ := List.forall_mem_cons.1 h
    rw [applyAll, List.foldlM_cons, apply_eq_ok tags hpass, ok_bind]
    exact ih _ hpasses

/-- Passes are refused where one of them is. -/
theorem applyAll_eq_error {passes : List TagPass} (tags : Mapping)
    (h : ¬∀ pass ∈ passes, pass.IsWritable) :
    applyAll tags passes = .error (.tooManyDigits .writing) := by
  induction passes generalizing tags with
  | nil => exact absurd (List.forall_mem_nil _) h
  | cons pass passes ih =>
    rw [applyAll, List.foldlM_cons]
    by_cases hpass : pass.IsWritable
    · rw [apply_eq_ok tags hpass, ok_bind]
      exact ih _ fun hpasses ↦ h (List.forall_mem_cons.2 ⟨hpass, hpasses⟩)
    · rw [apply_eq_error tags hpass, error_bind]

/-- A run has a result exactly when all counts can be written. -/
theorem exists_applyAll_iff (tags : Mapping) (passes : List TagPass) :
    (∃ result, applyAll tags passes = .ok result) ↔ ∀ pass ∈ passes, pass.IsWritable := by
  refine ⟨fun ⟨result, hresult⟩ ↦ ?_, fun h ↦ ⟨_, applyAll_eq_ok tags h⟩⟩
  by_contra h
  rw [applyAll_eq_error tags h] at hresult
  cases hresult

/-! ### Names -/

/-- Every name of a kind of pass is a derived name. -/
theorem names_subset_derivedNames (kind : PassKind) : kind.names ⊆ derivedNames := by
  cases kind <;> decide

/-- A kind of pass has no name twice. -/
theorem nodup_names (kind : PassKind) : kind.names.Nodup := by
  cases kind <;> decide

/-- Different kinds of passes have no name in common. -/
theorem nodup_names_append {first second : PassKind} (h : first ≠ second) :
    (first.names ++ second.names).Nodup := by
  revert h
  cases first <;> cases second <;> decide

/-- A pass writes under some names of its kind, in their order. -/
theorem keys_writes_sublist (namesError : Bool) (pass : TagPass) :
    ((pass.writes namesError).map Prod.fst).Sublist pass.kind.names := by
  cases pass with
  | scope origin =>
    simp only [writes, List.map_append, List.append_assoc]
    iterate 3 refine .append (keys_tagIf_sublist _ _ _) ?_
    exact keys_tagIf_sublist _ _ _
  | status outcome =>
    rw [writes, List.map_append]
    exact .append (keys_tagIf_sublist _ _ _) (keys_tagIf_sublist _ _ _)
  | drops attributes events =>
    rw [writes, List.map_append]
    exact .append (keys_tagIf_sublist _ _ _) (keys_tagIf_sublist _ _ _)

theorem mem_names_of_mem_writes {namesError : Bool} {pass : TagPass} {tag : Value × Value}
    (h : tag ∈ pass.writes namesError) : tag.1 ∈ pass.kind.names :=
  (keys_writes_sublist namesError pass).subset (List.mem_map_of_mem h)

/-- A pass writes under no name twice. -/
theorem nodup_keys_writes (namesError : Bool) (pass : TagPass) :
    ((pass.writes namesError).map Prod.fst).Nodup :=
  (keys_writes_sublist namesError pass).nodup (nodup_names pass.kind)

theorem mem_derivedNames_of_mem_writes {namesError : Bool} {pass : TagPass} {tag : Value × Value}
    (h : tag ∈ pass.writes namesError) : tag.1 ∈ derivedNames :=
  names_subset_derivedNames pass.kind (mem_names_of_mem_writes h)

/-- The names under which a pass writes are the same as themselves and as nothing else. -/
theorem plain_of_mem_writes {namesError : Bool} {pass : TagPass} {tag : Value × Value}
    (h : tag ∈ pass.writes namesError) : Entries.Plain Value.Same tag.1 :=
  plain_of_mem_derivedNames (mem_derivedNames_of_mem_writes h)

/-! ### What is found after a pass -/

/-- What is found after a pass under a derived name: what it wrote there, else what stood there. -/
theorem find?_write {name : Value} (tags : Mapping) (pass : TagPass) (h : name ∈ derivedNames) :
    (write tags pass).find? name =
      ((pass.writes (tags.contains errorTag)).lookup name).or (tags.find? name) := by
  rw [Mapping.find?, write, Mapping.entries_insertAll]
  exact Entries.find?_insertAll_of_plain (fun _ htag ↦ plain_of_mem_writes htag)
    (nodup_keys_writes _ pass) (plain_of_mem_derivedNames h) _

/-- A pass leaves the names of the other kinds alone. -/
theorem find?_write_of_kind_ne {name : Value} {kind : PassKind} (tags : Mapping) {pass : TagPass}
    (hname : name ∈ kind.names) (hkind : pass.kind ≠ kind) :
    (write tags pass).find? name = tags.find? name := by
  have hlookup : (pass.writes (tags.contains errorTag)).lookup name = none :=
    Entries.lookup_eq_none_of_not_mem fun hmem ↦
      List.disjoint_of_nodup_append (nodup_names_append hkind)
        ((keys_writes_sublist _ pass).subset hmem) hname
  rw [find?_write tags pass (names_subset_derivedNames kind hname), hlookup, Option.none_or]

/-- An error is written for a status of an error: its description, or an empty text where no error
is named. -/
theorem lookup_errorTag_writes (namesError : Bool) (outcome : Status) :
    ((TagPass.status outcome).writes namesError).lookup errorTag =
      if outcome.code = .error ∧ (outcome.description.isTruthy ∨ namesError = false) then
        some (if outcome.description.isTruthy then outcome.description else .str "")
      else none := by
  have hother : ¬errorTag = statusTag := by decide
  simp [writes, List.lookup_append, lookup_tagIf, hother]

/-- The name of a scope is written under both of its names, and so is its version. -/
theorem lookup_writes_scope (namesError : Bool) (origin : Scope) :
    ((TagPass.scope origin).writes namesError).lookup scopeNameTag =
        ((TagPass.scope origin).writes namesError).lookup libraryNameTag ∧
      ((TagPass.scope origin).writes namesError).lookup scopeVersionTag =
        ((TagPass.scope origin).writes namesError).lookup libraryVersionTag := by
  simp [writes, List.lookup_append, lookup_tagIf, scopeNameTag, libraryNameTag, scopeVersionTag,
    libraryVersionTag]

/-! ### What a run keeps -/

/-- What passes over tags leave as it was. -/
structure Keeps (passes : List TagPass) (tags result : Mapping) : Prop where
  /-- The names that were there come first, in their order. -/
  keys : tags.keys <+: result.keys
  /-- Under all other names than the eight derived ones everything stays, and nothing is added. -/
  others : result.entries.filter (fun entry ↦ entry.1 ∉ derivedNames) =
    tags.entries.filter (fun entry ↦ entry.1 ∉ derivedNames)
  /-- Nothing but a status of an error touches the error. -/
  error : (∀ outcome, .status outcome ∈ passes → outcome.code ≠ .error) →
    result.find? errorTag = tags.find? errorTag
  /-- Without a description nothing replaces an error. -/
  namedError : (∀ outcome, .status outcome ∈ passes → outcome.code = .error →
      outcome.description.isTruthy = false) →
    ∀ named, tags.find? errorTag = some named → result.find? errorTag = some named
  /-- An error that is not empty is never replaced by an empty one. -/
  nonemptyError : ∀ named, tags.find? errorTag = some named → named.isTruthy →
    ∃ later, result.find? errorTag = some later ∧ later.isTruthy
  /-- The two names of a scope stay in agreement. -/
  names : tags.find? scopeNameTag = tags.find? libraryNameTag →
    result.find? scopeNameTag = result.find? libraryNameTag
  /-- Its two versions do too. -/
  versions : tags.find? scopeVersionTag = tags.find? libraryVersionTag →
    result.find? scopeVersionTag = result.find? libraryVersionTag

theorem Keeps.refl (tags : Mapping) : Keeps [] tags tags where
  keys := List.prefix_refl _
  others := rfl
  error _ := rfl
  namedError _ _ hnamed := hnamed
  nonemptyError named hnamed hnonempty := ⟨named, hnamed, hnonempty⟩
  names hagree := hagree
  versions hagree := hagree

/-- What passes keep and later ones keep is kept by all of them. -/
theorem Keeps.trans {passes passes' : List TagPass} {tags middle result : Mapping}
    (h : Keeps passes tags middle) (h' : Keeps passes' middle result) :
    Keeps (passes ++ passes') tags result where
  keys := h.keys.trans h'.keys
  others := h'.others.trans h.others
  error hnone := (h'.error fun outcome hmem ↦ hnone outcome (List.mem_append_right _ hmem)).trans
    (h.error fun outcome hmem ↦ hnone outcome (List.mem_append_left _ hmem))
  namedError hnone named hnamed :=
    h'.namedError (fun outcome hmem ↦ hnone outcome (List.mem_append_right _ hmem)) named
      (h.namedError (fun outcome hmem ↦ hnone outcome (List.mem_append_left _ hmem)) named hnamed)
  nonemptyError named hnamed hnonempty := by
    obtain ⟨later, hlater, hnonempty'⟩ := h.nonemptyError named hnamed hnonempty
    exact h'.nonemptyError later hlater hnonempty'
  names hagree := h'.names (h.names hagree)
  versions hagree := h'.versions (h.versions hagree)

theorem keys_prefix_write (tags : Mapping) (pass : TagPass) :
    tags.keys <+: (write tags pass).keys := by
  rw [Mapping.keys, Mapping.keys, write, Mapping.entries_insertAll]
  exact Entries.keys_prefix_insertAll _ _

theorem filter_write (tags : Mapping) (pass : TagPass) :
    (write tags pass).entries.filter (fun entry ↦ entry.1 ∉ derivedNames) =
      tags.entries.filter fun entry ↦ entry.1 ∉ derivedNames := by
  rw [write, Mapping.entries_insertAll]
  exact Entries.filter_insertAll_of_plain (P := fun name ↦ decide (name ∉ derivedNames))
    (fun _ htag ↦ plain_of_mem_writes htag)
    (fun _ htag ↦ by simpa using mem_derivedNames_of_mem_writes htag) _

/-- The error after a pass: a description that is there, an empty text where there was none, or
what was there before. -/
theorem find?_errorTag_write_status (tags : Mapping) (outcome : Status) :
    (write tags (.status outcome)).find? errorTag =
      if outcome.code = .error then
        if outcome.description.isTruthy then some outcome.description
        else (tags.find? errorTag).or (some (.str ""))
      else tags.find? errorTag := by
  rw [find?_write tags _ (by decide), lookup_errorTag_writes, Mapping.contains]
  by_cases hcode : outcome.code = .error
  · cases hdescription : outcome.description.isTruthy with
    | true => simp [hcode]
    | false => cases htag : tags.find? errorTag <;> simp [hcode]
  · simp [hcode]

/-- A pass leaves the scope and the library tags agreeing. -/
theorem find?_scope_write (tags : Mapping) (pass : TagPass) :
    (tags.find? scopeNameTag = tags.find? libraryNameTag →
        (write tags pass).find? scopeNameTag = (write tags pass).find? libraryNameTag) ∧
      (tags.find? scopeVersionTag = tags.find? libraryVersionTag →
        (write tags pass).find? scopeVersionTag = (write tags pass).find? libraryVersionTag) := by
  by_cases hkind : pass.kind = .scope
  · cases pass with
    | status _ | drops _ _ => cases hkind
    | scope origin =>
      have hfind : ∀ name ∈ PassKind.scope.names, (write tags (.scope origin)).find? name =
          (((TagPass.scope origin).writes (tags.contains errorTag)).lookup name).or
            (tags.find? name) :=
        fun name hname ↦ find?_write tags _ (names_subset_derivedNames .scope hname)
      obtain ⟨hnames, hversions⟩ := lookup_writes_scope (tags.contains errorTag) origin
      rw [hfind scopeNameTag (by decide), hfind libraryNameTag (by decide),
        hfind scopeVersionTag (by decide), hfind libraryVersionTag (by decide), hnames, hversions]
      exact ⟨fun hagree ↦ by rw [hagree], fun hagree ↦ by rw [hagree]⟩
  · have hstay : ∀ name ∈ PassKind.scope.names, (write tags pass).find? name = tags.find? name :=
      fun name hname ↦ find?_write_of_kind_ne tags hname hkind
    rw [hstay scopeNameTag (by decide), hstay libraryNameTag (by decide),
      hstay scopeVersionTag (by decide), hstay libraryVersionTag (by decide)]
    exact ⟨id, id⟩

/-- What a pass leaves as the error: a description, an empty text where there was none, or what was
there before. -/
theorem find?_errorTag_write (tags : Mapping) (pass : TagPass) :
    (write tags pass).find? errorTag = tags.find? errorTag ∨
      ∃ outcome, pass = .status outcome ∧ outcome.code = .error ∧
        (write tags pass).find? errorTag =
          if outcome.description.isTruthy then some outcome.description
          else (tags.find? errorTag).or (some (.str "")) := by
  cases pass with
  | scope _ | drops _ _ =>
    have herror : errorTag ∈ PassKind.status.names := by decide
    exact .inl (find?_write_of_kind_ne tags herror (by simp [kind]))
  | status outcome =>
    rw [find?_errorTag_write_status]
    by_cases hcode : outcome.code = .error
    · exact .inr ⟨outcome, rfl, hcode, if_pos hcode⟩
    · exact .inl (if_neg hcode)

/-- One pass keeps what passes keep. -/
theorem keeps_write (tags : Mapping) (pass : TagPass) : Keeps [pass] tags (write tags pass) where
  keys := keys_prefix_write tags pass
  others := filter_write tags pass
  error hnone := by
    rcases find?_errorTag_write tags pass with hstay | ⟨outcome, rfl, hcode, -⟩
    · exact hstay
    · exact absurd hcode (hnone outcome List.mem_cons_self)
  namedError hnone named hnamed := by
    rcases find?_errorTag_write tags pass with hstay | ⟨outcome, rfl, hcode, hwritten⟩
    · rw [hstay, hnamed]
    · rw [hwritten, hnone outcome List.mem_cons_self hcode, hnamed]
      rfl
  nonemptyError named hnamed hnonempty := by
    rcases find?_errorTag_write tags pass with hstay | ⟨outcome, -, -, hwritten⟩
    · exact ⟨named, hstay.trans hnamed, hnonempty⟩
    · rw [hwritten, hnamed]
      cases hdescription : outcome.description.isTruthy with
      | true => exact ⟨outcome.description, rfl, hdescription⟩
      | false => exact ⟨named, rfl, hnonempty⟩
  names := (find?_scope_write tags pass).1
  versions := (find?_scope_write tags pass).2

/-- Passes keep what one of them keeps. -/
theorem keeps_foldl_write (tags : Mapping) (passes : List TagPass) :
    Keeps passes tags (passes.foldl write tags) := by
  induction passes generalizing tags with
  | nil => exact .refl tags
  | cons pass passes ih => exact (keeps_write tags pass).trans (ih _)

/-- A run of passes ends with tags as long as the positive counts can be written, and these tags
keep what passes keep. -/
theorem applyAll_keeps (tags : Mapping) (passes : List TagPass) :
    ((∃ result, applyAll tags passes = .ok result) ↔ ∀ pass ∈ passes, pass.IsWritable) ∧
      ∀ result, applyAll tags passes = .ok result → Keeps passes tags result := by
  refine ⟨exists_applyAll_iff tags passes, fun result hresult ↦ ?_⟩
  rw [applyAll_eq_ok tags ((exists_applyAll_iff tags passes).1 ⟨result, hresult⟩)] at hresult
  cases hresult
  exact keeps_foldl_write tags passes

/-- An error that an attribute names, before a status without a description and after it. -/
theorem applyAll_keeps_named_error :
    ∃ result,
      applyAll (.ofEntries [(libraryNameTag, .str "lib"), (errorTag, .str "from attributes"),
          (scopeNameTag, .str "lib"), (.str "http.method", .str "GET")])
        [.status ⟨.error, .str ""⟩, .scope ⟨.str "io", .str "1.0", .null⟩, .drops (-2) 7] =
          .ok result ∧
      result.find? errorTag = some (.str "from attributes") ∧
      result.find? scopeNameTag = result.find? libraryNameTag := by
  obtain ⟨hexists, hkeeps⟩ := applyAll_keeps
    (.ofEntries [(libraryNameTag, .str "lib"), (errorTag, .str "from attributes"),
      (scopeNameTag, .str "lib"), (.str "http.method", .str "GET")])
    [.status ⟨.error, .str ""⟩, .scope ⟨.str "io", .str "1.0", .null⟩, .drops (-2) 7]
  obtain ⟨result, hresult⟩ := hexists.2 (by decide)
  have h := hkeeps result hresult
  refine ⟨result, hresult, h.namedError ?_ _ (by decide), h.names (by decide)⟩
  simp [Value.isTruthy]

end TagPass
end SpanBridge.Zipkin
