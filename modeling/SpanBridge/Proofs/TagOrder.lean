import SpanBridge.Proofs.TagPass

/-!
# The order of passes over tags

Passes of different kinds write under different names, and only passes of a status look at a name,
so two of different kinds may change places (`write_comm`). Two runs that hold the same passes of
each kind in the same order therefore end with the same tags, in some order: the first pass of the
one run is moved to the front of the other (`foldl_write_front`), and the rest follows by induction
(`foldl_write_interleaved`). A pass that is repeated at once changes nothing (`write_write`).
-/

set_option autoImplicit false
set_option relaxedAutoImplicit false

namespace SpanBridge.Zipkin

/-- The same tags, in any order. -/
def SameTags (first second : Mapping) : Prop := first.entries.Perm second.entries

theorem SameTags.refl (tags : Mapping) : SameTags tags tags := List.Perm.refl _

theorem SameTags.symm {first second : Mapping} (h : SameTags first second) :
    SameTags second first := List.Perm.symm h

theorem SameTags.trans {first second third : Mapping} (h : SameTags first second)
    (h' : SameTags second third) : SameTags first third := List.Perm.trans h h'

/-- Whether an error is tagged does not depend on the order of tags. -/
theorem SameTags.contains_errorTag {first second : Mapping} (h : SameTags first second) :
    first.contains errorTag = second.contains errorTag := by
  rw [Bool.eq_iff_iff, errorTag, Mapping.contains_str_iff, Mapping.contains_str_iff]
  exact (h.map Prod.fst).mem_iff

/-- A pass writes the same tags whatever their order is. -/
theorem SameTags.write {first second : Mapping} (h : SameTags first second) (pass : TagPass) :
    SameTags (TagPass.write first pass) (TagPass.write second pass) := by
  rw [SameTags, TagPass.write, TagPass.write, h.contains_errorTag, Mapping.entries_insertAll,
    Mapping.entries_insertAll]
  exact Entries.insertAll_perm (fun _ htag ↦ TagPass.plain_of_mem_writes htag)
    (TagPass.nodup_keys_writes _ pass) h first.distinct second.distinct

/-- Passes write the same tags whatever their order is. -/
theorem SameTags.foldl_write {first second : Mapping} (h : SameTags first second)
    (passes : List TagPass) :
    SameTags (passes.foldl TagPass.write first) (passes.foldl TagPass.write second) := by
  induction passes generalizing first second with
  | nil => exact h
  | cons pass passes ih => exact ih (h.write pass)

namespace TagPass

/-! ### Passes of different kinds -/

/-- What a pass writes after one of another kind is what it writes before it. -/
theorem writes_after {first second : TagPass} (tags : Mapping) (h : first.kind ≠ second.kind) :
    second.writes ((write tags first).contains errorTag) =
      second.writes (tags.contains errorTag) := by
  cases second with
  | scope _ | drops _ _ => rfl
  | status outcome =>
    have herror : errorTag ∈ PassKind.status.names := by decide
    rw [Mapping.contains, find?_write_of_kind_ne tags herror h, Mapping.contains]

/-- Passes of different kinds may be made in either order. -/
theorem write_comm {first second : TagPass} (tags : Mapping) (h : first.kind ≠ second.kind) :
    SameTags (write (write tags first) second) (write (write tags second) first) := by
  have hkeys : ((first.writes (tags.contains errorTag) ++
      second.writes (tags.contains errorTag)).map Prod.fst).Nodup := by
    rw [List.map_append]
    exact ((keys_writes_sublist _ first).append (keys_writes_sublist _ second)).nodup
      (nodup_names_append h)
  have hplain : ∀ tag ∈ first.writes (tags.contains errorTag) ++
      second.writes (tags.contains errorTag), Entries.Plain Value.Same tag.1 := by
    intro tag htag
    rcases List.mem_append.1 htag with htag | htag <;> exact plain_of_mem_writes htag
  have hfirst := writes_after tags h
  have hsecond := writes_after tags h.symm
  rw [SameTags, write, hfirst, write, ← Mapping.insertAll_append, write, hsecond, write,
    ← Mapping.insertAll_append, Mapping.entries_insertAll, Mapping.entries_insertAll]
  exact Entries.insertAll_perm_of_perm hplain hkeys List.perm_append_comm tags.distinct

/-- A pass may come before all those of other kinds. -/
theorem foldl_write_front {pass : TagPass} {before : List TagPass} (after : List TagPass)
    (h : ∀ other ∈ before, other.kind ≠ pass.kind) (tags : Mapping) :
    SameTags ((before ++ pass :: after).foldl write tags)
      ((before ++ after).foldl write (write tags pass)) := by
  induction before generalizing tags with
  | nil => exact .refl _
  | cons other before ih =>
    obtain ⟨hother, hbefore⟩ := List.forall_mem_cons.1 h
    exact (ih hbefore (write tags other)).trans
      ((write_comm tags hother).foldl_write (before ++ after))

/-! ### Runs -/

/-- Two runs with the same passes of each kind in the same order. -/
def Interleave (passes passes' : List TagPass) : Prop :=
  ∀ kind : PassKind, passes.filter (·.kind = kind) = passes'.filter (·.kind = kind)

/-- Interleavings have the same passes. -/
theorem Interleave.mem_iff {passes passes' : List TagPass} (h : Interleave passes passes')
    (pass : TagPass) : pass ∈ passes ↔ pass ∈ passes' := by
  have hmem : pass ∈ passes.filter (·.kind = pass.kind) ↔
      pass ∈ passes'.filter (·.kind = pass.kind) := by rw [h pass.kind]
  simpa using hmem

/-- The first pass of one run stands in the other after passes of other kinds only. -/
theorem Interleave.exists_front {pass : TagPass} {passes passes' : List TagPass}
    (h : Interleave (pass :: passes) passes') :
    ∃ before after, passes' = before ++ pass :: after ∧
      (∀ other ∈ before, other.kind ≠ pass.kind) ∧ Interleave passes (before ++ after) := by
  have hkind := h pass.kind
  rw [List.filter_cons_of_pos (by simp), eq_comm, List.filter_eq_cons_iff] at hkind
  obtain ⟨before, after, rfl, hbefore, -, -⟩ := hkind
  refine ⟨before, after, rfl, fun other hother ↦ by simpa using hbefore other hother, ?_⟩
  intro kind
  have hkind := h kind
  by_cases hpass : pass.kind = kind
  · have hnone : before.filter (·.kind = kind) = [] :=
      List.filter_eq_nil_iff.2 fun other hother ↦ by simpa [hpass] using hbefore other hother
    rw [List.filter_cons_of_pos (by simpa using hpass), List.filter_append, hnone,
      List.filter_cons_of_pos (by simpa using hpass)] at hkind
    rw [List.filter_append, hnone]
    exact (List.cons.inj hkind).2
  · rw [List.filter_cons_of_neg (by simpa using hpass), List.filter_append,
      List.filter_cons_of_neg (by simpa using hpass), ← List.filter_append] at hkind
    exact hkind

/-- Interleavings of passes write the same tags. -/
theorem foldl_write_interleaved {passes passes' : List TagPass} (h : Interleave passes passes')
    (tags : Mapping) : SameTags (passes.foldl write tags) (passes'.foldl write tags) := by
  induction passes generalizing passes' tags with
  | nil =>
    have hnil : passes' = [] := List.eq_nil_iff_forall_not_mem.2 fun pass hpass ↦
      List.not_mem_nil ((h.mem_iff pass).2 hpass)
    rw [hnil]
    exact .refl _
  | cons pass passes ih =>
    obtain ⟨before, after, rfl, hbefore, hrest⟩ := h.exists_front
    exact (ih hrest (write tags pass)).trans (foldl_write_front after hbefore tags).symm

/-! ### Repetition -/

/-- Tags that name an error are given no more than tags that do not. -/
theorem writes_subset (pass : TagPass) : pass.writes true ⊆ pass.writes false := by
  cases pass with
  | scope _ | drops _ _ => exact List.Subset.refl _
  | status outcome =>
    rw [writes, writes]
    refine List.append_subset.2 ⟨List.subset_append_left _ _, ?_⟩
    refine List.Subset.trans (tagIf_subset (fun h ↦ ?_) _ _) (List.subset_append_right _ _)
    simp only [Bool.not_true, Bool.or_false, Bool.and_eq_true] at h
    simp [h.1]

/-- A pass takes no error away. -/
theorem contains_errorTag_write {tags : Mapping} (pass : TagPass)
    (h : tags.contains errorTag = true) : (write tags pass).contains errorTag = true :=
  (Mapping.contains_str_iff _ _).2
    ((keys_prefix_write tags pass).subset ((Mapping.contains_str_iff _ _).1 h))

/-- What a pass writes again it has written already. -/
theorem writes_again_subset (tags : Mapping) (pass : TagPass) :
    pass.writes ((write tags pass).contains errorTag) ⊆ pass.writes (tags.contains errorTag) := by
  cases hbefore : tags.contains errorTag with
  | true => rw [contains_errorTag_write pass hbefore]; exact List.Subset.refl _
  | false =>
    cases (write tags pass).contains errorTag with
    | true => exact writes_subset pass
    | false => exact List.Subset.refl _

theorem write_write (tags : Mapping) (pass : TagPass) :
    write (write tags pass) pass = write tags pass := by
  refine Mapping.ext ?_
  rw [write, Mapping.entries_insertAll]
  refine Entries.insertAll_of_forall_mem (fun _ htag ↦ plain_of_mem_writes htag)
    (write tags pass).distinct fun tag htag ↦ ?_
  rw [write, Mapping.entries_insertAll]
  exact Entries.mem_insertAll (fun _ htag ↦ plain_of_mem_writes htag) (nodup_keys_writes _ pass)
    tags.distinct (writes_again_subset tags pass htag)

/-- A pass that is repeated at once changes nothing, and it fails where it failed at first. -/
theorem apply_apply (tags : Mapping) (pass : TagPass) :
    (apply tags pass >>= fun tags ↦ apply tags pass) = apply tags pass := by
  by_cases h : pass.IsWritable
  · rw [apply_eq_ok tags h, ok_bind, apply_eq_ok _ h, write_write]
  · rw [apply_eq_error tags h, error_bind]

/-- Passes after others are passes over what those leave. -/
theorem applyAll_append (tags : Mapping) (passes passes' : List TagPass) :
    applyAll tags (passes ++ passes') =
      applyAll tags passes >>= fun middle ↦ applyAll middle passes' :=
  List.foldlM_append

/-- A pass made twice in a row may be made once. -/
theorem applyAll_repeated (tags : Mapping) (before after : List TagPass) (pass : TagPass) :
    applyAll tags (before ++ pass :: pass :: after) = applyAll tags (before ++ pass :: after) := by
  have honce : ∀ middle, applyAll middle (pass :: pass :: after) =
      applyAll middle (pass :: after) := fun middle ↦ by
    simp only [applyAll, List.foldlM_cons]
    rw [← bind_assoc, apply_apply]
  simp only [applyAll_append, honce]

/-! ### Outcomes -/

/-- The same tags in any order, or the same failure. -/
def SameOutcome : Except AttributeError Mapping → Except AttributeError Mapping → Prop
  | .ok result, .ok result' => SameTags result result'
  | .error error, .error error' => error = error'
  | _, _ => False

/-- Runs with the same passes of each kind in the same order end with the same tags, or fail alike
because a count cannot be written; and a pass that is repeated at once changes neither the tags nor
their order. -/
theorem applyAll_interleaved (tags : Mapping) :
    (∀ passes passes', Interleave passes passes' →
        ((∃ result, applyAll tags passes = .ok result) ↔ ∀ pass ∈ passes, pass.IsWritable) ∧
          SameOutcome (applyAll tags passes) (applyAll tags passes')) ∧
      ∀ before pass after, applyAll tags (before ++ pass :: pass :: after) =
        applyAll tags (before ++ pass :: after) := by
  refine ⟨fun passes passes' h ↦ ⟨exists_applyAll_iff tags passes, ?_⟩,
    fun before pass after ↦ applyAll_repeated tags before after pass⟩
  have hwritable : (∀ pass ∈ passes, pass.IsWritable) ↔ ∀ pass ∈ passes', pass.IsWritable :=
    forall_congr' fun pass ↦ by rw [h.mem_iff pass]
  by_cases hpasses : ∀ pass ∈ passes, pass.IsWritable
  · rw [applyAll_eq_ok tags hpasses, applyAll_eq_ok tags (hwritable.1 hpasses)]
    exact foldl_write_interleaved h tags
  · rw [applyAll_eq_error tags hpasses, applyAll_eq_error tags (hpasses ∘ hwritable.2)]
    rfl

/-- Two runs that write the same tags in different orders. -/
theorem applyAll_interleaved_reordered :
    ∃ result result',
      applyAll .empty [.scope ⟨.str "lib", .null, .null⟩, .status ⟨.error, .str ""⟩, .drops 3 (-1),
        .status ⟨.error, .str "timeout"⟩] = .ok result ∧
      applyAll .empty [.drops 3 (-1), .status ⟨.error, .str ""⟩, .status ⟨.error, .str "timeout"⟩,
        .scope ⟨.str "lib", .null, .null⟩] = .ok result' ∧
      SameTags result result' ∧ result.keys ≠ result'.keys := by
  have hinterleave : Interleave
      [.scope ⟨.str "lib", .null, .null⟩, .status ⟨.error, .str ""⟩, .drops 3 (-1),
        .status ⟨.error, .str "timeout"⟩]
      [.drops 3 (-1), .status ⟨.error, .str ""⟩, .status ⟨.error, .str "timeout"⟩,
        .scope ⟨.str "lib", .null, .null⟩] := by
    intro kind
    cases kind <;> rfl
  obtain ⟨-, hsame⟩ := (applyAll_interleaved .empty).1 _ _ hinterleave
  exact ⟨_, _, rfl, rfl, hsame, by decide⟩

end TagPass
end SpanBridge.Zipkin
