import SpanBridge.Proofs.Outcome
import SpanBridge.Sorting.Sort
import SpanBridge.Value.Order

/-!
# When sorting succeeds

An order may refuse to compare two items, and which pairs are compared depends on the items. Here
each function of `SpanBridge.Sorting` gets one lemma: if any two items with a property can be
compared, then the function succeeds on such items and keeps to them. `Sorting.sort_succeeds` is the
outcome, and `Value.sorted_texts` its use: texts can always be sorted.
-/

set_option autoImplicit false
set_option relaxedAutoImplicit false

namespace SpanBridge

variable {α β ε : Type}

namespace Sorting

/-- A test that comes to an answer. -/
def Decides (test : Except ε Bool) : Prop := Succeeds test fun _ ↦ True

/-- A test that decides does so when it is turned around. -/
theorem Decides.not {test : Except ε Bool} (h : Decides test) : Decides (not <$> test) := by
  obtain ⟨answer, rfl, -⟩ := h
  exact ⟨!answer, rfl, trivial⟩

/-- A choice by a test that decides succeeds where both ways do. -/
theorem Decides.choose {test : Except ε Bool} (h : Decides test) {first second : Except ε β}
    {Q : β → Prop} (hfirst : Succeeds first Q) (hsecond : Succeeds second Q) :
    Succeeds (test >>= fun answer ↦ if answer = true then first else second) Q := by
  obtain ⟨answer, rfl, -⟩ := h
  cases answer
  · exact hsecond
  · exact hfirst

/-! ### Searching -/

section Searching

variable {origin : RunEnd} {stops : α → Except ε Bool} {items : Array α}

/-- A search by halves ends without failure. -/
theorem bisect_succeeds (hstops : ∀ item ∈ items, Decides (stops item)) {low high : Nat}
    (bound : high ≤ items.size) :
    Succeeds (bisect origin stops items low high bound) fun _ ↦ True := by
  fun_induction bisect origin stops items low high bound with
  | case1 low high bound inside middle below above ihlow ihhigh =>
    exact (hstops _ (Array.getElem_mem _)).choose ihlow ihhigh
  | case2 => exact .ok trivial

theorem stride_succeeds (hstops : ∀ item ∈ items, Decides (stops item)) (last next : Nat) :
    Succeeds (stride origin stops items last next) fun _ ↦ True := by
  fun_induction stride origin stops items last next with
  | case1 last next inside ih =>
    exact (hstops _ (Array.getElem_mem _)).choose (bisect_succeeds hstops _) ih
  | case2 => exact bisect_succeeds hstops _

theorem gallop_succeeds (hstops : ∀ item ∈ items, Decides (stops item)) :
    Succeeds (gallop origin stops items) fun _ ↦ True := by
  unfold gallop
  split
  · exact (hstops _ (Array.getElem_mem _)).choose (.ok trivial) (stride_succeeds hstops 0 1)
  · exact .ok trivial

end Searching

/-! ### Merging -/

section Merging

variable {P : α → Prop}

/-- Two runs in the course of a merge, all of whose items have a property. -/
structure Merging.Has (P : α → Prop) (runs : Merging α) : Prop where
  taken : ∀ item ∈ runs.taken, P item
  keeper : ∀ item ∈ runs.keeper, P item
  mover : ∀ item ∈ runs.mover, P item

namespace Merging.Has

variable {runs : Merging α}

/-- What both runs have is had by what they are merged into. -/
theorem result (h : runs.Has P) : ∀ item ∈ runs.result, P item := by
  intro item hitem
  simp only [Merging.result, List.mem_append, List.mem_reverse] at hitem
  rcases hitem with (htaken | hmover) | hkeeper
  · exact h.taken item htaken
  · exact h.mover item hmover
  · exact h.keeper item hkeeper

/-- Items taken from one run keep what all items have. -/
theorem takeKeepers (h : runs.Has P) (count : Nat) : (runs.takeKeepers count).Has P where
  taken := by
    intro item hitem
    rcases List.mem_append.1 hitem with htaken | htaken
    · exact h.keeper item (List.mem_of_mem_take (List.mem_reverse.1 htaken))
    · exact h.taken item htaken
  keeper := fun item hitem ↦ h.keeper item (List.mem_of_mem_drop hitem)
  mover := h.mover

/-- Items taken from the other run keep what all items have. -/
theorem takeMovers (h : runs.Has P) (count : Nat) : (runs.takeMovers count).Has P where
  taken := by
    intro item hitem
    rcases List.mem_append.1 hitem with htaken | htaken
    · exact h.mover item (List.mem_of_mem_take (List.mem_reverse.1 htaken))
    · exact h.taken item htaken
  keeper := h.keeper
  mover := fun item hitem ↦ h.mover item (List.mem_of_mem_drop hitem)

theorem unlessDone (h : runs.Has P) {action : Merging α → Merging α}
    (haction : (action runs).Has P) : (runs.unlessDone action).Has P := by
  unfold Merging.unlessDone
  split
  · exact h
  · exact haction

end Merging.Has

/-- Any two items with a property can be compared. -/
def Compares (P : α → Prop) (less : α → α → Except ε Bool) : Prop :=
  ∀ first second, P first → P second → Decides (less first second)

namespace Way

variable {way : Way α ε} {runs : Merging α}

theorem gallopKeepers_succeeds (hleads : Compares P way.leads) (h : runs.Has P) :
    Succeeds (way.gallopKeepers runs) fun found ↦ found.1.Has P := by
  unfold gallopKeepers
  split
  · next taken keeper next keepers mover movers =>
    have hstops : ∀ item ∈ (keeper :: next :: keepers).toArray, Decides (way.leads mover item) :=
      fun item hitem ↦ hleads mover item (h.mover mover List.mem_cons_self)
        (h.keeper item (List.mem_toArray.1 hitem))
    exact (gallop_succeeds hstops).bind fun count _ ↦
      .ok ((h.takeKeepers count).unlessDone ((h.takeKeepers count).takeMovers 1))
  · exact .ok h

theorem gallopMovers_succeeds (hleads : Compares P way.leads) (h : runs.Has P) :
    Succeeds (way.gallopMovers runs) fun found ↦ found.1.Has P := by
  unfold gallopMovers
  split
  · next taken keeper next keepers mover movers =>
    have hstops : ∀ item ∈ (mover :: movers).toArray,
        Decides (not <$> way.leads item keeper) :=
      fun item hitem ↦ (hleads item keeper (h.mover item (List.mem_toArray.1 hitem))
        (h.keeper keeper List.mem_cons_self)).not
    exact (gallop_succeeds hstops).bind fun count _ ↦
      .ok ((h.takeMovers count).unlessDone ((h.takeMovers count).takeKeepers 1))
  · exact .ok h

theorem gallopBoth_succeeds (hleads : Compares P way.leads) (h : runs.Has P) :
    Succeeds (way.gallopBoth runs) fun found ↦ found.1.Has P := by
  unfold gallopBoth
  split
  · exact (gallopKeepers_succeeds hleads h).bind fun _ hkeepers ↦
      (gallopMovers_succeeds hleads hkeepers).bind fun _ hmovers ↦ .ok hmovers
  · exact (gallopMovers_succeeds hleads h).bind fun _ hmovers ↦
      (gallopKeepers_succeeds hleads hmovers).bind fun _ hkeepers ↦ .ok hkeepers

/-- A merge ends without failure and keeps what all items have. -/
theorem merge_succeeds (hleads : Compares P way.leads) {fuel threshold : Nat} {pace : Pace}
    (h : runs.Has P) :
    Succeeds (way.merge fuel threshold pace runs) fun merged ↦ ∀ item ∈ merged.1, P item := by
  fun_induction merge way fuel threshold pace runs with
  | case1 fuel threshold _ _ taken keeper next keepers mover movers ihmover ihkeeper =>
    obtain ⟨hmover, hmovers⟩ := List.forall_mem_cons.1 h.mover
    obtain ⟨hkeeper, hkeepers⟩ := List.forall_mem_cons.1 h.keeper
    refine (hleads mover keeper hmover hkeeper).choose
      (ihmover ⟨?_, h.keeper, hmovers⟩) (ihkeeper ⟨?_, hkeepers, h.mover⟩)
    · exact List.forall_mem_cons.2 ⟨hmover, h.taken⟩
    · exact List.forall_mem_cons.2 ⟨hkeeper, h.taken⟩
  | case2 fuel threshold taken keeper next keepers mover movers ihpaid ihspent =>
    refine (gallopBoth_succeeds hleads h).bind fun found hfound ↦ ?_
    dsimp only
    split
    · exact .ok hfound.result
    split
    · exact ihpaid found.1 hfound
    · exact ihspent found.1 hfound
  | case3 => exact .ok h.result

end Way

variable {less : α → α → Except ε Bool} {threshold : Nat} {first second : List α}

theorem mergeFromFront_succeeds (hless : Compares P less) (hfirst : ∀ item ∈ first, P item)
    (hsecond : ∀ item ∈ second, P item) :
    Succeeds (mergeFromFront less threshold first second)
      fun merged ↦ ∀ item ∈ merged.1, P item :=
  Way.merge_succeeds hless (Merging.Has.takeMovers ⟨nofun, hfirst, hsecond⟩ 1)

theorem mergeFromBack_succeeds (hless : Compares P less) (hfirst : ∀ item ∈ first, P item)
    (hsecond : ∀ item ∈ second, P item) :
    Succeeds (mergeFromBack less threshold first second)
      fun merged ↦ ∀ item ∈ merged.1, P item := by
  have hback : Merging.Has P ⟨[], second.reverse, first.reverse⟩ :=
    ⟨nofun, fun item hitem ↦ hsecond item (List.mem_reverse.1 hitem),
      fun item hitem ↦ hfirst item (List.mem_reverse.1 hitem)⟩
  have hleads : Compares P fun mover keeper ↦ less keeper mover :=
    fun mover keeper hmover hkeeper ↦ hless keeper mover hkeeper hmover
  refine (Way.merge_succeeds hleads (hback.takeMovers 1)).bind fun merged hmerged ↦ ?_
  exact .ok fun item hitem ↦ hmerged item (List.mem_reverse.1 hitem)

theorem mergeRuns_succeeds (hless : Compares P less) (hfirst : ∀ item ∈ first, P item)
    (hsecond : ∀ item ∈ second, P item) :
    Succeeds (mergeRuns less threshold first second)
      fun merged ↦ ∀ item ∈ merged.1, P item := by
  have hends : ∀ {ahead merged behind : List α}, (∀ item ∈ ahead, P item) →
      (∀ item ∈ merged, P item) → (∀ item ∈ behind, P item) →
      ∀ item ∈ ahead ++ merged ++ behind, P item := fun hahead hmerged hbehind ↦
    List.forall_mem_append.2 ⟨List.forall_mem_append.2 ⟨hahead, hmerged⟩, hbehind⟩
  cases second with
  | nil =>
    unfold mergeRuns
    simp only [pure_eq_ok, ok_bind, List.drop_length, List.getLast?_nil, List.take_length,
      List.append_nil]
    exact .ok hfirst
  | cons item second =>
    have hplace : ∀ other ∈ first.toArray, Decides (less item other) := fun other hother ↦
      hless item other (hsecond item List.mem_cons_self) (hfirst other (List.mem_toArray.1 hother))
    unfold mergeRuns
    refine (gallop_succeeds hplace).bind fun inPlace _ ↦ ?_
    have hahead : ∀ item ∈ first.take inPlace, P item :=
      fun item hitem ↦ hfirst item (List.mem_of_mem_take hitem)
    have hrest : ∀ item ∈ first.drop inPlace, P item :=
      fun item hitem ↦ hfirst item (List.mem_of_mem_drop hitem)
    -- From here on it does not matter that the second run has an item.
    generalize item :: second = second at *
    dsimp only
    split
    · exact .ok (List.forall_mem_append.2 ⟨hahead, hsecond⟩)
    · next last hlast =>
      have hstops : ∀ item ∈ second.reverse.toArray, Decides (less item last) := fun item hitem ↦
        hless item last (hsecond item (List.mem_reverse.1 (List.mem_toArray.1 hitem)))
          (hrest last (List.mem_of_getLast? hlast))
      refine (gallop_succeeds hstops).bind fun inPlace' _ ↦ ?_
      have hbehind : ∀ item ∈ second.drop (second.length - inPlace'), P item :=
        fun item hitem ↦ hsecond item (List.mem_of_mem_drop hitem)
      have hsecond' : ∀ item ∈ second.take (second.length - inPlace'), P item :=
        fun item hitem ↦ hsecond item (List.mem_of_mem_take hitem)
      split
      · exact .ok (hends hahead hrest hbehind)
      split
      · exact (mergeFromFront_succeeds hless hrest hsecond').bind fun merged hmerged ↦
          .ok (hends hahead hmerged hbehind)
      · exact (mergeFromBack_succeeds hless hrest hsecond').bind fun merged hmerged ↦
          .ok (hends hahead hmerged hbehind)

end Merging

/-! ### Runs -/

section Runs

variable {P : α → Prop} {less : α → α → Except ε Bool}

theorem chainLength_succeeds {joins : α → α → Except ε Bool} (hjoins : Compares P joins)
    {item : α} {rest : List α} (hitem : P item) (hrest : ∀ next ∈ rest, P next) :
    Succeeds (chainLength joins item rest) fun _ ↦ True := by
  induction rest generalizing item with
  | nil => exact .ok trivial
  | cons next rest ih =>
    obtain ⟨hnext, hrest⟩ := List.forall_mem_cons.1 hrest
    exact (hjoins item next hitem hnext).choose ((ih hnext hrest).bind fun _ _ ↦ .ok trivial)
      (.ok trivial)

theorem findRun_succeeds (hless : Compares P less) {first : α} {rest : List α} (hfirst : P first)
    (hrest : ∀ next ∈ rest, P next) : Succeeds (findRun less first rest) fun _ ↦ True := by
  cases rest with
  | nil => exact .ok trivial
  | cons second rest =>
    obtain ⟨hsecond, hrest⟩ := List.forall_mem_cons.1 hrest
    have hdescends : Compares P fun item next ↦ less next item :=
      fun item next hitem hnext ↦ hless next item hnext hitem
    have hascends : Compares P fun item next ↦ not <$> less next item :=
      fun item next hitem hnext ↦ (hless next item hnext hitem).not
    exact (hless second first hsecond hfirst).choose
      ((chainLength_succeeds hdescends hsecond hrest).bind fun _ _ ↦ .ok trivial)
      ((chainLength_succeeds hascends hsecond hrest).bind fun _ _ ↦ .ok trivial)

theorem insertItem_succeeds (hless : Compares P less) {run : List α} {item : α}
    (hrun : ∀ other ∈ run, P other) (hitem : P item) :
    Succeeds (insertItem less run item) fun longer ↦ ∀ other ∈ longer, P other := by
  have hstops : ∀ other ∈ run.toArray, Decides (less item other) :=
    fun other hother ↦ hless item other hitem (hrun other (List.mem_toArray.1 hother))
  refine (bisect_succeeds hstops _).bind fun place _ ↦ .ok ?_
  refine List.forall_mem_append.2 ⟨fun other hother ↦ hrun other (List.mem_of_mem_take hother),
    List.forall_mem_cons.2 ⟨hitem, fun other hother ↦ hrun other (List.mem_of_mem_drop hother)⟩⟩

/-- Runs all of whose items have a property. -/
def AllHave (P : α → Prop) (runs : List (Run α)) : Prop := ∀ run ∈ runs, ∀ item ∈ run.items, P item

theorem mergeDeeper_succeeds (hless : Compares P less) {depth threshold : Nat}
    {runs : List (Run α)} (hruns : AllHave P runs) :
    Succeeds (mergeDeeper less depth threshold runs) fun left ↦ AllHave P left.1 := by
  fun_induction mergeDeeper less depth threshold runs with
  | case1 threshold latest previous earlier hdeeper ih =>
    obtain ⟨hlatest, hothers⟩ := List.forall_mem_cons.1 hruns
    obtain ⟨hprevious, hearlier⟩ := List.forall_mem_cons.1 hothers
    refine (mergeRuns_succeeds hless hprevious hlatest).bind fun merged hmerged ↦ ?_
    exact ih merged.1 merged.2 (List.forall_mem_cons.2 ⟨hmerged, hearlier⟩)
  | case2 => exact .ok hruns
  | case3 => exact .ok hruns

theorem makeRoom_succeeds (hless : Compares P less) {total threshold length : Nat}
    {runs : List (Run α)} (hruns : AllHave P runs) :
    Succeeds (makeRoom less total threshold length runs) fun left ↦ AllHave P left.1 := by
  cases runs with
  | nil => exact .ok hruns
  | cons latest earlier =>
    refine (mergeDeeper_succeeds hless hruns).bind fun left hleft ↦ ?_
    obtain ⟨left, threshold⟩ := left
    cases left with
    | nil => exact .ok hleft
    | cons latest earlier =>
      obtain ⟨hlatest, hearlier⟩ := List.forall_mem_cons.1 hleft
      exact .ok (List.forall_mem_cons.2 ⟨hlatest, hearlier⟩)

/-- All runs of a list are collected without failure. -/
theorem collectRuns_succeeds (hless : Compares P less) {total shortest start threshold : Nat}
    {runs : List (Run α)} {items : List α} (hruns : AllHave P runs)
    (hitems : ∀ item ∈ items, P item) :
    Succeeds (collectRuns less total shortest start threshold runs items)
      fun left ↦ AllHave P left.1 := by
  fun_induction collectRuns less total shortest start threshold runs items with
  | case1 => exact .ok hruns
  | case2 start threshold runs first rest ih =>
    obtain ⟨hfirst, hrest⟩ := List.forall_mem_cons.1 hitems
    refine (findRun_succeeds hless hfirst hrest).bind fun found _ ↦ ?_
    obtain ⟨followers, isDescending⟩ := found
    specialize ih followers isDescending
    simp only [dite_eq_ite] at ih
    have hrun : ∀ item ∈ first :: rest.take followers, P item :=
      List.forall_mem_cons.2 ⟨hfirst, fun item hitem ↦ hrest item (List.mem_of_mem_take hitem)⟩
    have hfound : ∀ item ∈ (if isDescending = true then (first :: rest.take followers).reverse
        else first :: rest.take followers), P item := by
      split
      · exact fun item hitem ↦ hrun item (List.mem_reverse.1 hitem)
      · exact hrun
    have hleft : ∀ item ∈ rest.drop followers, P item :=
      fun item hitem ↦ hrest item (List.mem_of_mem_drop hitem)
    dsimp only
    refine (Succeeds.foldlM hfound fun run item hitem hrun ↦ insertItem_succeeds hless hrun
      (hleft item (List.mem_of_mem_take hitem))).bind fun run hrun ↦ ?_
    refine (makeRoom_succeeds hless hruns).bind fun left hruns ↦ ?_
    exact ih run left.1 left.2 (List.forall_mem_cons.2 ⟨hrun, hruns⟩)
      fun item hitem ↦ hleft item (List.mem_of_mem_drop hitem)

theorem AllHave.three {latest previous earlier : Run α} {others : List (Run α)}
    (h : AllHave P (latest :: previous :: earlier :: others)) :
    (∀ item ∈ latest.items, P item) ∧ (∀ item ∈ previous.items, P item) ∧
      (∀ item ∈ earlier.items, P item) ∧ AllHave P others := by
  obtain ⟨hlatest, h⟩ := List.forall_mem_cons.1 h
  obtain ⟨hprevious, h⟩ := List.forall_mem_cons.1 h
  obtain ⟨hearlier, h⟩ := List.forall_mem_cons.1 h
  exact ⟨hlatest, hprevious, hearlier, h⟩

theorem mergeAll_succeeds (hless : Compares P less) {threshold : Nat} {runs : List (Run α)}
    (hruns : AllHave P runs) :
    Succeeds (mergeAll less threshold runs) fun items ↦ ∀ item ∈ items, P item := by
  fun_induction mergeAll less threshold runs with
  | case1 => exact .ok nofun
  | case2 threshold run => exact .ok (hruns run List.mem_cons_self)
  | case3 threshold latest previous =>
    obtain ⟨hlatest, hothers⟩ := List.forall_mem_cons.1 hruns
    obtain ⟨hprevious, -⟩ := List.forall_mem_cons.1 hothers
    exact (mergeRuns_succeeds hless hprevious hlatest).bind fun merged hmerged ↦ .ok hmerged
  | case4 threshold latest previous earlier others _ ih =>
    obtain ⟨hlatest, hprevious, hearlier, hothers⟩ := hruns.three
    exact (mergeRuns_succeeds hless hearlier hprevious).bind fun merged hmerged ↦
      ih merged.1 merged.2 (List.forall_mem_cons.2
        ⟨hlatest, List.forall_mem_cons.2 ⟨hmerged, hothers⟩⟩)
  | case5 threshold latest previous earlier others _ ih =>
    obtain ⟨hlatest, hprevious, hearlier, hothers⟩ := hruns.three
    exact (mergeRuns_succeeds hless hprevious hlatest).bind fun merged hmerged ↦
      ih merged.1 merged.2 (List.forall_mem_cons.2
        ⟨hmerged, List.forall_mem_cons.2 ⟨hearlier, hothers⟩⟩)

/-- Sorting items of which any two can be compared succeeds, and yields such items. -/
theorem sort_succeeds (hless : Compares P less) {items : List α} (hitems : ∀ item ∈ items, P item) :
    Succeeds (sort less items) fun sorted ↦ ∀ item ∈ sorted, P item := by
  unfold sort
  split
  · exact .ok hitems
  · exact (collectRuns_succeeds hless (List.forall_mem_nil _) hitems).bind fun runs hruns ↦
      mergeAll_succeeds hless hruns

end Runs
end Sorting

/-- Texts can be sorted. -/
theorem Value.sorted_texts {values : List Value} (h : ∀ value ∈ values, ∃ text, value = .str text) :
    ∃ sorted, Value.sorted values = .ok sorted := by
  have hless : Sorting.Compares (fun value ↦ ∃ text, value = .str text) Value.isLess := by
    rintro _ _ ⟨first, rfl⟩ ⟨second, rfl⟩
    exact .ok trivial
  obtain ⟨sorted, hsorted, -⟩ := Sorting.sort_succeeds hless h
  exact ⟨sorted, hsorted⟩

end SpanBridge
