import SpanBridge.Proofs.Json.Printed
import SpanBridge.Proofs.Rendering

/-!
# Rendered spans are read back

The value of spans whose names and tags are texts has an exact document
(`hasExactDocument_of_arrayOf`). So whatever the layout in which the spans are written, reading the
text yields that value (`render_reads_back`), and the layouts differ in nothing that can be read.
-/

set_option autoImplicit false
set_option relaxedAutoImplicit false

namespace SpanBridge

/-! ### Values with exact documents -/

/-- A value that is written and read without loss. -/
def Value.HasExactDocument (value : Value) : Prop :=
  ∃ document : Json, document.IsExact ∧ document.toValue = value

/-- An entry that becomes a member without loss: its key is a name. -/
def IsExactEntry (entry : Value × Value) : Prop :=
  (∃ name, entry.1 = .str name) ∧ entry.2.HasExactDocument

theorem hasExactDocument_str (text : String) : (Value.str text).HasExactDocument :=
  ⟨.str text, .str text, rfl⟩

theorem hasExactDocument_bool (truth : Bool) : (Value.bool truth).HasExactDocument :=
  ⟨.bool truth, .bool truth, rfl⟩

theorem hasExactDocument_int {number : Int} (h : Number.WithinLimit number) :
    (Value.int number).HasExactDocument :=
  ⟨.int number, .int h, rfl⟩

theorem isExactEntry_str {name : String} {value : Value} (h : value.HasExactDocument) :
    IsExactEntry (.str name, value) := ⟨⟨name, rfl⟩, h⟩

/-- The values of members are taken one by one. -/
theorem Json.memberValues_eq_map (members : List (String × Json)) :
    Json.memberValues members = members.map fun member ↦ (.str member.1, member.2.toValue) := by
  induction members with
  | nil => rfl
  | cons member members ih => rw [Json.memberValues, ih, List.map_cons]

/-- Items with exact documents are the values of exact documents. -/
theorem exists_exactItems {items : List Value} (h : ∀ item ∈ items, item.HasExactDocument) :
    ∃ documents : List Json, (∀ document ∈ documents, document.IsExact) ∧
      Json.itemValues documents = items := by
  induction items with
  | nil => exact ⟨[], List.forall_mem_nil _, rfl⟩
  | cons item items ih =>
    obtain ⟨document, hdocument, rfl⟩ := h item List.mem_cons_self
    obtain ⟨documents, hdocuments, rfl⟩ :=
      ih fun other hother ↦ h other (List.mem_cons_of_mem _ hother)
    exact ⟨document :: documents, List.forall_mem_cons.2 ⟨hdocument, hdocuments⟩, rfl⟩

theorem hasExactDocument_list {items : List Value} (h : ∀ item ∈ items, item.HasExactDocument) :
    (Value.list items).HasExactDocument := by
  obtain ⟨documents, hdocuments, rfl⟩ := exists_exactItems h
  exact ⟨.arr documents, .arr hdocuments, rfl⟩

/-- Entries with exact documents are the values of members with exact documents. -/
theorem exists_exactMembers {entries : List (Value × Value)}
    (h : ∀ entry ∈ entries, IsExactEntry entry) :
    ∃ members : List (String × Json), (∀ member ∈ members, member.2.IsExact) ∧
      Json.memberValues members = entries := by
  induction entries with
  | nil => exact ⟨[], List.forall_mem_nil _, rfl⟩
  | cons entry entries ih =>
    obtain ⟨⟨name, hname⟩, document, hdocument, hvalue⟩ := h entry List.mem_cons_self
    obtain ⟨members, hmembers, rfl⟩ := ih fun other hother ↦ h other (List.mem_cons_of_mem _ hother)
    refine ⟨(name, document) :: members, List.forall_mem_cons.2 ⟨hdocument, hmembers⟩, ?_⟩
    rw [Json.memberValues, hvalue, ← hname]

/-- Entries with names of which none occurs twice become an object without loss. -/
theorem hasExactDocument_map {entries : List (Value × Value)}
    (h : ∀ entry ∈ entries, IsExactEntry entry) (hkeys : (entries.map Prod.fst).Nodup) :
    (Value.map entries).HasExactDocument := by
  obtain ⟨members, hmembers, rfl⟩ := exists_exactMembers h
  refine ⟨.obj members, .obj hmembers ?_, rfl⟩
  rw [Json.memberValues_eq_map, List.map_map] at hkeys
  refine (List.pairwise_map.1 hkeys).imp fun hne heq ↦ ?_
  exact hne (congrArg Value.str heq)

/-! ### Spans of texts -/

/-- A span whose name and tags are texts, whose times can be written, and whose address, unless it
is missing or empty, is the text of one. -/
structure ZipkinSpan.IsTextual (span : ZipkinSpan) : Prop where
  name : ∃ text, span.name = .str text
  timestamp : Number.WithinLimit span.timestamp
  duration : Number.WithinLimit span.duration
  address : span.localEndpoint.IsLocated
  tags : ∀ tag ∈ span.tags.entries, ∃ key text, tag = (.str key, .str text)

/-- Keys that are texts are the same only when they are equal. -/
theorem Mapping.nodup_keys {mapping : Mapping}
    (h : ∀ entry ∈ mapping.entries, ∃ name, entry.1 = .str name) :
    (mapping.entries.map Prod.fst).Nodup := by
  refine List.pairwise_map.2 (mapping.distinct.imp_of_mem fun hfirst _ hdistinct heq ↦ ?_)
  obtain ⟨name, hname⟩ := h _ hfirst
  refine hdistinct ?_
  rw [← heq, hname]
  exact ⟨rfl, rfl⟩

/-- An optional member keeps the keys in the order of their names. -/
theorem keys_append_memberIf {entries : List (Value × Value)} {names : List String}
    (h : (entries.map Prod.fst).Sublist (names.map Value.str)) (name : String)
    (value : Option Value) :
    ((entries ++ memberIf name value).map Prod.fst).Sublist
      ((names ++ [name]).map Value.str) := by
  rw [List.map_append, List.map_append]
  cases value with
  | none => exact h.append (List.nil_sublist _)
  | some value => exact h.append (List.Sublist.refl _)

/-- The names of the members that a span can have, in their order. -/
def ZipkinSpan.memberNames : List String :=
  ["traceId", "parentId", "id", "kind", "name", "timestamp", "duration", "localEndpoint", "tags",
    "debug", "shared"]

/-- The keys of a span are some of its member names, in their order. -/
theorem ZipkinSpan.keys_members_sublist {span : ZipkinSpan} {members : List (Value × Value)}
    (h : span.members = .ok members) :
    (members.map Prod.fst).Sublist (memberNames.map Value.str) := by
  obtain ⟨endpoint, -, hmembers⟩ := bind_eq_ok_iff.1 h
  obtain rfl := Except.ok.inj hmembers
  show (List.map Prod.fst _).Sublist ((["traceId"] ++ ["parentId"] ++ ["id"] ++ ["kind"] ++
    ["name"] ++ ["timestamp"] ++ ["duration"] ++ ["localEndpoint"] ++ ["tags"] ++ ["debug"] ++
    ["shared"]).map Value.str)
  iterate 10 refine keys_append_memberIf ?_ _ _
  exact List.Sublist.refl _

/-- An endpoint has no key twice. -/
theorem Endpoint.nodup_keys {endpoint : Endpoint} {members : List (Value × Value)}
    (h : endpoint.members = .ok members) : (members.map Prod.fst).Nodup := by
  unfold Endpoint.members at h
  split at h
  · obtain rfl := Except.ok.inj h
    exact List.nodup_singleton _
  · obtain rfl := Except.ok.inj h
    exact List.nodup_singleton _
  · obtain ⟨address, -, hmembers⟩ := bind_eq_ok_iff.1 h
    obtain rfl := Except.ok.inj hmembers
    cases address.isV4 <;> simp

/-- A span of texts has members with an exact document. -/
theorem ZipkinSpan.IsTextual.exists_exactMembers {span : ZipkinSpan} (h : span.IsTextual) :
    ∃ members, span.members = .ok members ∧ (Value.map members).HasExactDocument := by
  obtain ⟨endpoint, hendpoint, htexts⟩ := h.address.exists_members
  have hendpointDocument : (Value.map endpoint).HasExactDocument := by
    refine hasExactDocument_map (fun member hmember ↦ ?_) (Endpoint.nodup_keys hendpoint)
    obtain ⟨name, text, rfl⟩ := htexts member hmember
    exact isExactEntry_str (hasExactDocument_str text)
  have hname : span.name.HasExactDocument := by
    obtain ⟨text, htext⟩ := h.name
    rw [htext]
    exact hasExactDocument_str text
  have htags : (Value.map span.tags.entries).HasExactDocument := by
    refine hasExactDocument_map (fun tag htag ↦ ?_) (Mapping.nodup_keys fun tag htag ↦ ?_)
    · obtain ⟨key, text, rfl⟩ := h.tags tag htag
      exact isExactEntry_str (hasExactDocument_str text)
    · obtain ⟨key, text, rfl⟩ := h.tags tag htag
      exact ⟨key, rfl⟩
  obtain ⟨members, hmembers, hexact⟩ := ZipkinSpan.exists_members hendpoint
    (fun _ _ ↦ isExactEntry_str (hasExactDocument_str _))
    (fun _ _ ↦ isExactEntry_str (hasExactDocument_bool _))
    (isExactEntry_str hname) (isExactEntry_str (hasExactDocument_int h.timestamp))
    (isExactEntry_str (hasExactDocument_int h.duration)) (isExactEntry_str hendpointDocument)
    (isExactEntry_str htags)
  have hnames : (ZipkinSpan.memberNames.map Value.str).Nodup := by decide
  exact ⟨members, hmembers,
    hasExactDocument_map hexact (hnames.sublist (ZipkinSpan.keys_members_sublist hmembers))⟩

namespace Zipkin

/-- Spans of texts have an array with an exact document. -/
theorem exists_exactArray {spans : List ZipkinSpan} (h : ∀ span ∈ spans, span.IsTextual) :
    ∃ value, arrayOf spans = .ok value ∧ value.HasExactDocument := by
  obtain ⟨items, hitems, hexact⟩ :=
    exists_arrayOf_of_forall fun span hspan ↦ (h span hspan).exists_exactMembers
  exact ⟨_, hitems, hasExactDocument_list hexact⟩

/-- An indent leaves a layout that separates. -/
theorem isSeparating_of_layoutFor {limit : Nat} {oneLine layout : Json.Layout}
    {indent : Option Int} (honeLine : oneLine.IsSeparating)
    (h : layoutFor limit oneLine indent = .ok layout) :
    layout.IsSeparating := by
  unfold layoutFor at h
  split at h
  · exact Except.ok.inj h ▸ honeLine
  · split at h
    · cases h
    · split at h
      · cases h
      · exact Except.ok.inj h ▸ Json.Layout.isSeparating_indented _

/-- A text that is read as a value. It is ASCII, and it is on one line unless there is an indent. -/
structure ReadsBack (indent : Option Int) (value : Value) (written : String) : Prop where
  reads : ∃ document, Json.read written = .ok document ∧ document.toValue = value
  ascii : ∀ c ∈ written.toList, c.toNat < 0x80
  oneLine : indent = none → ∀ c ∈ written.toList, Json.IsPlain c

/-- A printed exact document is read back as its value. -/
theorem readsBack_print {limit : Nat} {oneLine layout : Json.Layout} {indent : Option Int}
    {document : Json} (honeLine : oneLine.IsSeparating) (hindent : oneLine.indent = none)
    (hlayout : layoutFor limit oneLine indent = .ok layout) (h : document.IsExact) :
    ReadsBack indent document.toValue (document.print layout) := by
  have hseparating := isSeparating_of_layoutFor honeLine hlayout
  have hwrites : ∀ c ∈ (document.print layout).toList, layout.Writes c := by
    rw [Json.print, String.toList_ofList]
    exact Json.writes_of_mem_write hseparating h 0
  exact {
    reads := ⟨document, Json.read_print hseparating h, rfl⟩
    ascii := by
      intro c hc
      rcases hwrites c hc with hplain | ⟨rfl, -⟩
      · exact hplain.2.trans (by decide)
      · decide
    oneLine := by
      rintro rfl c hc
      obtain rfl := Except.ok.inj hlayout
      exact (hwrites c hc).resolve_right fun hbreak ↦ hbreak.2 hindent }

/-- Spans of texts are written, compact or for a console, exactly when the indent fits a word and
there is memory for it, and are refused for nothing but their indent. What is written is read as the
array of the spans. -/
theorem render_reads_back {spans : List ZipkinSpan} (h : ∀ span ∈ spans, span.IsTextual) :
    ∃ value, arrayOf spans = .ok value ∧
      ∀ memory, ∀ renderer ∈ [renderCompact memory, renderConsole memory], ∀ indent,
        ((∃ written, renderer indent spans = .ok written) ↔
            IndentFits (memory spans) indent) ∧
          (∀ error, renderer indent spans = .error error ↔
            RefusesIndent (memory spans) indent error) ∧
          ∀ written, renderer indent spans = .ok written → ReadsBack indent value written := by
  obtain ⟨value, hvalue, document, hexact, rfl⟩ := exists_exactArray h
  have hdocument := Json.ofValue_toValue hexact.isBounded
  have hrender : ∀ memory, ∀ oneLine : Json.Layout, oneLine.IsSeparating → oneLine.indent = none →
      ∀ indent, ((∃ written, render memory oneLine indent spans = .ok written) ↔
            IndentFits (memory spans) indent) ∧
          (∀ error, render memory oneLine indent spans = .error error ↔
            RefusesIndent (memory spans) indent error) ∧
          ∀ written, render memory oneLine indent spans = .ok written →
            ReadsBack indent document.toValue written := by
    intro memory oneLine honeLine hindent indent
    refine ⟨exists_render_iff_of_document hvalue hdocument,
      fun _ ↦ render_eq_error_iff_of_document hvalue hdocument, ?_⟩
    intro written hwritten
    obtain ⟨layout, hlayout, rfl⟩ := (render_eq_ok_iff hvalue hdocument).1 hwritten
    exact readsBack_print honeLine hindent hlayout hexact
  refine ⟨_, hvalue, fun memory ↦
    List.forall_mem_cons.2 ⟨?compact, List.forall_mem_singleton.2 ?console⟩⟩
  case compact => exact hrender memory .compact Json.Layout.isSeparating_compact rfl
  case console => exact hrender memory .spaced Json.Layout.isSeparating_spaced rfl

/-- A span whose texts hold a quote, a line break and a character beyond sixteen bits. -/
def quotedSpan : ZipkinSpan where
  traceId := "1a"
  id := "\"1b\""
  name := .str "line\nbreak"
  timestamp := -7
  duration := 1
  localEndpoint := ⟨"api\u0001", some ""⟩
  tags := Mapping.empty.insert (.str "music") (.str "𝄞")

/-- A span with quotation marks and control characters is read back, and four blanks are too many.
-/
theorem quotedSpan_reads_back :
    ∃ value written, arrayOf [quotedSpan] = .ok value ∧
      renderConsole (.upTo 0) (some (-1)) [quotedSpan] = .ok written ∧
      ReadsBack (some (-1)) value written ∧
      renderCompact (.upTo 3) (some 4) [quotedSpan] = .error .indentTooLarge := by
  have htextual : quotedSpan.IsTextual := {
    name := ⟨_, rfl⟩
    timestamp := by decide +kernel
    duration := by decide +kernel
    address := by
      intro ip hip hne
      obtain rfl := Option.some.inj hip
      exact absurd rfl hne
    tags := List.forall_mem_singleton.2 ⟨_, _, rfl⟩ }
  have hfits : IndentFits (Memory.upTo 0 [quotedSpan]) (some (-1)) := by
    intro spaces hspaces
    obtain rfl := Option.some.inj hspaces
    exact ⟨by decide, by decide⟩
  have hrefuses : RefusesIndent (Memory.upTo 3 [quotedSpan]) (some 4) .indentTooLarge :=
    ⟨4, rfl, .inr ⟨by decide, by decide, rfl⟩⟩
  obtain ⟨value, hvalue, hrender⟩ := render_reads_back (List.forall_mem_singleton.2 htextual)
  obtain ⟨hwritten, -, hreads⟩ := hrender (.upTo 0) (renderConsole (.upTo 0)) (by simp) (some (-1))
  obtain ⟨-, hrefused, -⟩ := hrender (.upTo 3) (renderCompact (.upTo 3)) (by simp) (some 4)
  obtain ⟨written, hwritten⟩ := hwritten.2 hfits
  exact ⟨value, written, hvalue, hwritten, hreads written hwritten, (hrefused _).2 hrefuses⟩

/-- An indent beyond a word is refused however much memory there is, and one beyond the memory is
refused too, even where there is nothing to write. -/
theorem no_spans_beyond_layout :
    renderCompact .ample (some 0x8000000000000000) [] = .error .indentOutOfRange ∧
      renderConsole .ample (some (-0x8000000000000001)) [] = .error .indentOutOfRange ∧
      renderCompact (.upTo 0x4000000000) (some 0x4000000001) [] = .error .indentTooLarge := by
  decide +kernel

end Zipkin
end SpanBridge
