import SpanBridge.Pipeline
import SpanBridge.Proofs.Address.Canonical
import SpanBridge.Proofs.Otlp.Writable
import SpanBridge.Proofs.Tags

/-!
# Writing converted spans

A span can be written when its name, its times and its tags have documents and its address, if it
has one, is the text of an address (`ZipkinSpan.IsRenderable`). Spans converted from writable
records are of this kind (`isRenderable_of_convert`), and such spans are written in every layout
that exists (`exists_render_iff`).
-/

set_option autoImplicit false
set_option relaxedAutoImplicit false

namespace SpanBridge

/-! ### Spans that can be written -/

/-- A tag that can be written: its key has a name and its value has a document. -/
def IsRenderableTag (tag : Value × Value) : Prop :=
  (∃ name, Json.nameOfKey tag.1 = .ok name) ∧ tag.2.HasDocument

/-- A span each part of which can be written. -/
structure ZipkinSpan.IsRenderable (span : ZipkinSpan) : Prop where
  address : ∀ ip, span.localEndpoint.ip = some ip → ∃ address, Address.parse? ip = some address
  name : span.name.HasDocument
  timestamp : Number.WithinLimit span.timestamp
  duration : Number.WithinLimit span.duration
  tags : ∀ tag ∈ span.tags.entries, IsRenderableTag tag

theorem exists_ofEntries {entries : List (Value × Value)}
    (h : ∀ entry ∈ entries, IsRenderableTag entry) :
    ∃ members, Json.ofEntries entries = .ok members := by
  induction entries with
  | nil => exact ⟨[], rfl⟩
  | cons entry entries ih =>
    obtain ⟨⟨name, hname⟩, document, hdocument⟩ := h entry List.mem_cons_self
    obtain ⟨members, hmembers⟩ := ih fun other hother ↦ h other (List.mem_cons_of_mem _ hother)
    refine ⟨(name, document) :: members, ?_⟩
    rw [Json.ofEntries, hname, ok_bind, hdocument, ok_bind, hmembers]
    rfl

theorem exists_ofItems {items : List Value} (h : ∀ item ∈ items, item.HasDocument) :
    ∃ documents, Json.ofItems items = .ok documents := by
  induction items with
  | nil => exact ⟨[], rfl⟩
  | cons item items ih =>
    obtain ⟨document, hdocument⟩ := h item List.mem_cons_self
    obtain ⟨documents, hdocuments⟩ := ih fun other hother ↦ h other (List.mem_cons_of_mem _ hother)
    refine ⟨document :: documents, ?_⟩
    rw [Json.ofItems, hdocument, ok_bind, hdocuments]
    rfl

theorem hasDocument_map {entries : List (Value × Value)}
    (h : ∀ entry ∈ entries, IsRenderableTag entry) : (Value.map entries).HasDocument := by
  obtain ⟨members, hmembers⟩ := exists_ofEntries h
  refine ⟨.obj members, ?_⟩
  rw [Json.ofValue, hmembers]
  rfl

theorem hasDocument_list {items : List Value} (h : ∀ item ∈ items, item.HasDocument) :
    (Value.list items).HasDocument := by
  obtain ⟨documents, hdocuments⟩ := exists_ofItems h
  refine ⟨.arr documents, ?_⟩
  rw [Json.ofValue, hdocuments]
  rfl

theorem hasDocument_str (text : String) : (Value.str text).HasDocument := ⟨.str text, rfl⟩

theorem hasDocument_int {number : Int} (h : Number.WithinLimit number) :
    (Value.int number).HasDocument := ⟨.int number, Json.ofInteger_eq_ok h⟩

theorem isRenderableTag_str {name : String} {value : Value} (h : value.HasDocument) :
    IsRenderableTag (.str name, value) := ⟨⟨name, rfl⟩, h⟩

/-! ### Members of a span -/

section Members

variable {property : Value × Value → Prop}

/-- What holds of an optional value holds of its member. -/
theorem forall_mem_memberIf {name : String} {value : Option Value}
    (h : ∀ given, value = some given → property (.str name, given)) :
    ∀ member ∈ memberIf name value, property member := by
  intro member hmember
  cases value with
  | none => cases hmember
  | some given =>
    obtain rfl := List.mem_singleton.1 hmember
    exact h given rfl

theorem forall_mem_memberIf_map {α : Type} {name : String} {member? : Option α}
    {document : α → Value} (h : ∀ given, property (.str name, document given)) :
    ∀ member ∈ memberIf name (member?.map document), property member := by
  refine forall_mem_memberIf fun given hgiven ↦ ?_
  obtain ⟨source, -, rfl⟩ := Option.map_eq_some_iff.1 hgiven
  exact h source

theorem forall_mem_memberIf_some {name : String} {value : Value}
    (h : property (.str name, value)) :
    ∀ member ∈ memberIf name (some value), property member :=
  forall_mem_memberIf fun _ hgiven ↦ Option.some.inj hgiven ▸ h

/-- What holds of texts and truth values and of the parts of a span holds of all its members. -/
theorem ZipkinSpan.exists_members {span : ZipkinSpan} {endpoint : List (Value × Value)}
    (hendpoint : span.localEndpoint.members = .ok endpoint)
    (hstr : ∀ name text, property (.str name, .str text))
    (hbool : ∀ name truth, property (.str name, .bool truth))
    (hname : property (.str "name", span.name))
    (htimestamp : property (.str "timestamp", .int span.timestamp))
    (hduration : property (.str "duration", .int span.duration))
    (hmembers : property (.str "localEndpoint", .map endpoint))
    (htags : property (.str "tags", .map span.tags.entries)) :
    ∃ members, span.members = .ok members ∧ ∀ member ∈ members, property member := by
  have hwritten : ∀ given,
      (if span.tags.isEmpty then none else some (Value.map span.tags.entries)) = some given →
        property (.str "tags", given) := by
    intro given hgiven
    split at hgiven
    · cases hgiven
    · exact Option.some.inj hgiven ▸ htags
  refine ⟨_, bind_eq_ok_iff.2 ⟨endpoint, hendpoint, rfl⟩, ?_⟩
  simp only [List.forall_mem_append, and_assoc]
  refine ⟨?traceId, ?parentId, ?id, ?kind, ?name, ?timestamp, ?duration, ?endpoint, ?tags, ?debug,
    ?shared⟩
  case traceId => exact forall_mem_memberIf_some (hstr _ _)
  case parentId => exact forall_mem_memberIf_map fun _ ↦ hstr _ _
  case id => exact forall_mem_memberIf_some (hstr _ _)
  case kind => exact forall_mem_memberIf_map fun _ ↦ hstr _ _
  case name => exact forall_mem_memberIf_some hname
  case timestamp => exact forall_mem_memberIf_some htimestamp
  case duration => exact forall_mem_memberIf_some hduration
  case endpoint => exact forall_mem_memberIf_some hmembers
  case tags => exact forall_mem_memberIf hwritten
  case debug => exact forall_mem_memberIf_map fun _ ↦ hbool _ _
  case shared => exact forall_mem_memberIf_map fun _ ↦ hbool _ _

end Members

/-- An endpoint whose address, unless it is missing or empty, is the text of one. -/
def Endpoint.IsLocated (endpoint : Endpoint) : Prop :=
  ∀ ip, endpoint.ip = some ip → ip ≠ "" → ∃ address, Address.parse? ip = some address

/-- The members of an endpoint are a service and at most one address, and all of them are texts. -/
theorem Endpoint.IsLocated.exists_members {endpoint : Endpoint} (h : endpoint.IsLocated) :
    ∃ members, endpoint.members = .ok members ∧
      ∀ member ∈ members, ∃ name text, member = (.str name, .str text) := by
  unfold Endpoint.members
  split
  · exact ⟨_, rfl, List.forall_mem_singleton.2 ⟨_, _, rfl⟩⟩
  · exact ⟨_, rfl, List.forall_mem_singleton.2 ⟨_, _, rfl⟩⟩
  · next ip hne hip =>
    obtain ⟨address, haddress⟩ := h ip hip fun hempty ↦ hne (hempty ▸ rfl)
    rw [Address.parse, haddress]
    exact ⟨_, rfl, List.forall_mem_cons.2
      ⟨⟨_, _, rfl⟩, List.forall_mem_singleton.2 ⟨_, _, rfl⟩⟩⟩

theorem ZipkinSpan.IsRenderable.isLocated {span : ZipkinSpan} (h : span.IsRenderable) :
    span.localEndpoint.IsLocated := fun ip hip _ ↦ h.address ip hip

/-- The members of a span that can be written can be. -/
theorem ZipkinSpan.IsRenderable.exists_document {span : ZipkinSpan} (h : span.IsRenderable) :
    ∃ members, span.members = .ok members ∧ (Value.map members).HasDocument := by
  obtain ⟨endpoint, hendpoint, htexts⟩ := h.isLocated.exists_members
  have hendpointDocument : (Value.map endpoint).HasDocument := by
    refine hasDocument_map fun member hmember ↦ ?_
    obtain ⟨name, text, rfl⟩ := htexts member hmember
    exact isRenderableTag_str (hasDocument_str text)
  obtain ⟨members, hmembers, hrenderable⟩ := ZipkinSpan.exists_members hendpoint
    (fun _ _ ↦ isRenderableTag_str (hasDocument_str _))
    (fun _ truth ↦ isRenderableTag_str ⟨.bool truth, rfl⟩)
    (isRenderableTag_str h.name) (isRenderableTag_str (hasDocument_int h.timestamp))
    (isRenderableTag_str (hasDocument_int h.duration)) (isRenderableTag_str hendpointDocument)
    (isRenderableTag_str (hasDocument_map h.tags))
  exact ⟨members, hmembers, hasDocument_map hrenderable⟩

namespace Zipkin

/-- The array of spans is the list of their members, and has what each of these has. -/
theorem exists_arrayOf_of_forall {property : Value → Prop} {spans : List ZipkinSpan}
    (h : ∀ span ∈ spans, ∃ members, span.members = .ok members ∧ property (.map members)) :
    ∃ items, arrayOf spans = .ok (.list items) ∧ ∀ item ∈ items, property item := by
  have hmembers : ∃ members, spans.mapM ZipkinSpan.members = .ok members ∧
      ∀ entries ∈ members, property (.map entries) := by
    induction spans with
    | nil => exact ⟨[], rfl, nofun⟩
    | cons span spans ih =>
      obtain ⟨first, hfirst, hproperty⟩ := h span List.mem_cons_self
      obtain ⟨others, hothers, hproperties⟩ :=
        ih fun other hother ↦ h other (List.mem_cons_of_mem _ hother)
      refine ⟨first :: others, ?_, List.forall_mem_cons.2 ⟨hproperty, hproperties⟩⟩
      rw [List.mapM_cons, hfirst, ok_bind, hothers]
      rfl
  obtain ⟨members, hmembers, hproperties⟩ := hmembers
  refine ⟨members.map Value.map, bind_eq_ok_iff.2 ⟨members, hmembers, rfl⟩, fun item hitem ↦ ?_⟩
  obtain ⟨entries, hentries, rfl⟩ := List.mem_map.1 hitem
  exact hproperties entries hentries

/-- Spans that can be rendered have an array with a document. -/
theorem exists_arrayOf {spans : List ZipkinSpan} (h : ∀ span ∈ spans, span.IsRenderable) :
    ∃ value, arrayOf spans = .ok value ∧ value.HasDocument := by
  obtain ⟨items, hitems, hdocuments⟩ :=
    exists_arrayOf_of_forall fun span hspan ↦ (h span hspan).exists_document
  exact ⟨_, hitems, hasDocument_list hdocuments⟩

/-- Located spans have an array: only an address can be wrong with it. -/
theorem exists_arrayOf_of_isLocated {spans : List ZipkinSpan}
    (h : ∀ span ∈ spans, span.localEndpoint.IsLocated) : ∃ value, arrayOf spans = .ok value := by
  obtain ⟨items, hitems, -⟩ := @exists_arrayOf_of_forall (fun _ ↦ True) spans fun span hspan ↦ by
    obtain ⟨endpoint, hendpoint, -⟩ := (h span hspan).exists_members
    exact ⟨_, bind_eq_ok_iff.2 ⟨endpoint, hendpoint, rfl⟩, trivial⟩
  exact ⟨_, hitems⟩

/-- A number that fits a word of 64 bits. -/
def FitsWord (spaces : Int) : Prop := -0x8000000000000000 ≤ spaces ∧ spaces < 0x8000000000000000

instance : DecidablePred FitsWord := fun _ ↦ inferInstanceAs (Decidable (_ ∧ _))

/-- An indent for which a layout exists: none, or one that fits a word and for which there is
memory. -/
def IndentFits (limit : Nat) (indent : Option Int) : Prop :=
  ∀ spaces, indent = some spaces → FitsWord spaces ∧ spaces ≤ limit

/-- How an indent is refused: as out of range when it fits no word, and else as too large when there
is no memory for it. -/
def RefusesIndent (limit : Nat) (indent : Option Int) (error : RenderError) : Prop :=
  ∃ spaces, indent = some spaces ∧
    (¬FitsWord spaces ∧ error = .indentOutOfRange ∨
      FitsWord spaces ∧ limit < spaces ∧ error = .indentTooLarge)

/-- An indent has a layout exactly when it fits. -/
theorem exists_layoutFor_iff {limit : Nat} {oneLine : Json.Layout} {indent : Option Int} :
    (∃ layout, layoutFor limit oneLine indent = .ok layout) ↔ IndentFits limit indent := by
  cases indent with
  | none => simp [layoutFor, IndentFits]
  | some spaces =>
    have hfits : IndentFits limit (some spaces) ↔ FitsWord spaces ∧ spaces ≤ limit := by
      simp [IndentFits]
    rw [hfits, layoutFor, FitsWord]
    by_cases hword : spaces < -0x8000000000000000 ∨ 0x8000000000000000 ≤ spaces
    · simp only [if_pos hword, reduceCtorEq, exists_false, false_iff]
      omega
    · by_cases hmemory : limit < spaces.toNat
      · simp only [if_neg hword, if_pos hmemory, reduceCtorEq, exists_false, false_iff]
        omega
      · simp only [if_neg hword, if_neg hmemory, Except.ok.injEq, exists_eq', true_iff]
        omega

/-- An indent that has no layout fits no word, or there is no memory for it. -/
theorem layoutFor_eq_error_iff {limit : Nat} {oneLine : Json.Layout} {indent : Option Int}
    {error : RenderError} :
    layoutFor limit oneLine indent = .error error ↔ RefusesIndent limit indent error := by
  cases indent with
  | none => simp [layoutFor, RefusesIndent]
  | some spaces =>
    have hrefuses : RefusesIndent limit (some spaces) error ↔
        ¬FitsWord spaces ∧ error = .indentOutOfRange ∨
          FitsWord spaces ∧ limit < spaces ∧ error = .indentTooLarge := by
      simp [RefusesIndent]
    rw [hrefuses, layoutFor, FitsWord]
    by_cases hword : spaces < -0x8000000000000000 ∨ 0x8000000000000000 ≤ spaces
    · simp only [if_pos hword, Except.error.injEq]
      grind
    · by_cases hmemory : limit < spaces.toNat
      · simp only [if_neg hword, if_pos hmemory, Except.error.injEq]
        grind
      · simp only [if_neg hword, if_neg hmemory, reduceCtorEq, false_iff]
        omega

/-- No indent is refused as something that cannot be encoded. -/
theorem RefusesIndent.cases {limit : Nat} {indent : Option Int} {error : RenderError}
    (h : RefusesIndent limit indent error) :
    error = .indentOutOfRange ∨ error = .indentTooLarge := by
  obtain ⟨spaces, -, ⟨-, herror⟩ | ⟨-, -, herror⟩⟩ := h
  · exact .inl herror
  · exact .inr herror

variable {memory : Memory} {oneLine : Json.Layout} {indent : Option Int} {spans : List ZipkinSpan}

/-- Located spans are refused for their indent when it does not fit, and else for their values. -/
theorem render_eq_error {error : RenderError}
    (hlocated : ∀ span ∈ spans, span.localEndpoint.IsLocated)
    (h : render memory oneLine indent spans = .error error) :
    ((error = .indentOutOfRange ∨ error = .indentTooLarge) ∧
        ¬IndentFits (memory spans) indent) ∨
      (∃ cause, error = .encode cause) ∧ IndentFits (memory spans) indent := by
  obtain ⟨value, hvalue⟩ := exists_arrayOf_of_isLocated hlocated
  rw [← @exists_layoutFor_iff (memory spans) oneLine]
  rw [render, hvalue, mapError_ok, ok_bind] at h
  cases hlayout : layoutFor (memory spans) oneLine indent with
  | error refused =>
    rw [hlayout, error_bind] at h
    obtain rfl := Except.error.inj h
    exact .inl ⟨(layoutFor_eq_error_iff.1 hlayout).cases, by simp⟩
  | ok layout =>
    rw [hlayout, ok_bind] at h
    cases hdocument : Json.ofValue value with
    | error cause =>
      rw [hdocument, mapError_error, error_bind] at h
      exact .inr ⟨⟨cause, (Except.error.inj h).symm⟩, layout, rfl⟩
    | ok document =>
      rw [hdocument, mapError_ok, ok_bind] at h
      cases h

section Written

variable {value : Value} {document : Json}

/-- Spans whose array has a document are written in the layout for the indent. -/
theorem render_eq_ok_iff {written : String} (hvalue : arrayOf spans = .ok value)
    (hdocument : Json.ofValue value = .ok document) :
    render memory oneLine indent spans = .ok written ↔
      ∃ layout, layoutFor (memory spans) oneLine indent = .ok layout ∧
        document.print layout = written := by
  rw [render, hvalue, mapError_ok, ok_bind, bind_eq_ok_iff]
  simp only [hdocument, mapError_ok, ok_bind, pure_eq_ok, Except.ok.injEq]

/-- Spans whose array has a document are written exactly when the indent fits. -/
theorem exists_render_iff_of_document (hvalue : arrayOf spans = .ok value)
    (hdocument : Json.ofValue value = .ok document) :
    (∃ text, render memory oneLine indent spans = .ok text) ↔
      IndentFits (memory spans) indent := by
  rw [← @exists_layoutFor_iff (memory spans) oneLine]
  simp only [render_eq_ok_iff hvalue hdocument]
  exact ⟨fun ⟨_, layout, hlayout, _⟩ ↦ ⟨layout, hlayout⟩,
    fun ⟨layout, hlayout⟩ ↦ ⟨_, layout, hlayout, rfl⟩⟩

/-- Spans whose array has a document are refused for nothing but their indent. -/
theorem render_eq_error_iff_of_document {error : RenderError} (hvalue : arrayOf spans = .ok value)
    (hdocument : Json.ofValue value = .ok document) :
    render memory oneLine indent spans = .error error ↔
      RefusesIndent (memory spans) indent error := by
  rw [render, hvalue, mapError_ok, ok_bind, hdocument, mapError_ok, bind_eq_error_iff,
    ← @layoutFor_eq_error_iff (memory spans) oneLine]
  refine or_iff_left ?_
  rintro ⟨_, -, hprinted⟩
  cases hprinted

end Written

/-- Spans that can be written are written exactly when the indent fits. -/
theorem exists_render_iff (h : ∀ span ∈ spans, span.IsRenderable) :
    (∃ text, render memory oneLine indent spans = .ok text) ↔
      IndentFits (memory spans) indent := by
  obtain ⟨value, hvalue, document, hdocument⟩ := exists_arrayOf h
  exact exists_render_iff_of_document hvalue hdocument

/-- Spans that can be written are refused for nothing but their indent. -/
theorem render_eq_error_iff {error : RenderError} (h : ∀ span ∈ spans, span.IsRenderable) :
    render memory oneLine indent spans = .error error ↔
      RefusesIndent (memory spans) indent error := by
  obtain ⟨value, hvalue, document, hdocument⟩ := exists_arrayOf h
  exact render_eq_error_iff_of_document hvalue hdocument

end Zipkin
end SpanBridge
