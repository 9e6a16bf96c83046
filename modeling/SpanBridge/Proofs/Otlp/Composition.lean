import SpanBridge.Proofs.Otlp.Layout
import SpanBridge.Proofs.Otlp.Shaped

/-!
# Documents in parts

Reading goes through a document from left to right, so a document with the resources of two others
is read as the one and then the other (`decode_append`). Every span of an accepted document becomes
one record, in the order of the document and under its own resource and scope
(`forall₂_isRecordOf_rawSpans`). So a block may be split in two without any difference
(`decode_of_splitsBlockOf`), and a resource that uses one layout may be split without a difference
to what is accepted (`decode_eq_ok_iff_of_splitsEntry`).
-/

set_option autoImplicit false
set_option relaxedAutoImplicit false

namespace SpanBridge.Otlp

/-! ### One document after another -/

/-- Documents are decoded one after another where their resources are joined. -/
theorem decode_append {first second document : Json} {firstEntries secondEntries : List Json}
    (hfirst : resourceSpans? first = some (.arr firstEntries))
    (hsecond : resourceSpans? second = some (.arr secondEntries))
    (hdocument : resourceSpans? document = some (.arr (firstEntries ++ secondEntries))) :
    decode document = inTurn (decode first) (decode second) := by
  rw [decode_of_entries hfirst, decode_of_entries hsecond, decode_of_entries hdocument,
    flatten_mapM_append]

/-- Blocks are decoded in two parts. -/
theorem decodeAll_append (resource : Mapping) (blocks others : List Block) :
    decodeAll resource (blocks ++ others) =
      inTurn (decodeAll resource blocks) (decodeAll resource others) :=
  flatten_mapM_append (decodeBlock resource) blocks others

theorem decodeAll_cons_nil (resource : Mapping) (block : Block) :
    decodeAll resource [block] = decodeBlock resource block :=
  flatten_mapM_cons_nil (decodeBlock resource) block

/-! ### Raw spans -/

/-- The items of a list. Nothing else has items. -/
def listItems : Json → List Json
  | .arr items => items
  | _ => []

/-- The items of the list that an object has under a name. -/
def itemsAt (name : String) : Json → List Json
  | .obj members => (members.lookup name).elim [] listItems
  | _ => []

/-- A span where it stands in a document. -/
structure RawSpan where
  entry : Json
  layout : Layout
  block : Json
  span : Json

/-- The blocks of a resource, those of the current layout first. -/
def rawBlocks (entry : Json) : List (Layout × Json) :=
  (itemsAt "scopeSpans" entry).map (Prod.mk .current) ++
    (itemsAt "instrumentationLibrarySpans" entry).map (Prod.mk .former)

/-- The spans of a document in their order. -/
def rawSpans (document : Json) : List RawSpan :=
  (itemsAt "resourceSpans" document).flatMap fun entry ↦ (rawBlocks entry).flatMap fun block ↦
    (itemsAt "spans" block.2).map fun span ↦ ⟨entry, block.1, block.2, span⟩

/-- The attributes of the resource of an entry. -/
def resourceAttributes (entry : Json) : Except DocumentError Mapping := do
  let resource ← ask (entry.memberOr "resource" (.obj []))
  decodeAttributes (← ask (resource.memberOr "attributes" (.arr [])))

/-- A record of a span, with the resource and the scope under which the span stands. -/
def IsRecordOf (raw : RawSpan) (record : SpanRecord) : Prop :=
  ∃ resource block, resourceAttributes raw.entry = .ok resource ∧
    raw.layout.readBlock raw.block = .ok block ∧
      decodeSpan resource block.scope raw.span = .ok record

theorem isObject_of_memberOr {document default member : Json} {name : String}
    (h : document.memberOr name default = .ok member) : IsObject document := by
  cases document with
  | obj members => exact ⟨members, rfl⟩
  | _ => cases h

/-- What is gone through item by item is a list, if all its items are objects and it has any. -/
theorem listItems_of_elements {document : Json} {items : List Json}
    (h : document.elements = .ok items) (hitems : ∀ item ∈ items, IsObject item) :
    listItems document = items := by
  have hnone : ∀ texts : List String, items = texts.map Json.str → items = [] := by
    rintro (_ | ⟨text, texts⟩) rfl
    · rfl
    · obtain ⟨members, hmembers⟩ := hitems _ List.mem_cons_self
      cases hmembers
  cases document with
  | arr others => exact Except.ok.inj h
  | str text =>
    refine (hnone (text.toList.map String.singleton) ?_).symm
    rw [← Except.ok.inj h, List.map_map]
    rfl
  | obj members =>
    refine (hnone (members.map Prod.fst) ?_).symm
    rw [← Except.ok.inj h, List.map_map]
    rfl
  | _ => cases h

/-- The items under a name are those of the list there. -/
theorem itemsAt_of_listMember {name : String} {document : Json} {items : List Json}
    (h : listMember name document = .ok items) (hitems : ∀ item ∈ items, IsObject item) :
    itemsAt name document = items := by
  obtain ⟨member, hmember, helements⟩ := listMember_eq_ok_iff.1 h
  obtain ⟨members, rfl⟩ := isObject_of_memberOr hmember
  have hfound : (members.lookup name).getD (.arr []) = member := Except.ok.inj hmember
  rw [← listItems_of_elements helements hitems, ← hfound, itemsAt]
  cases members.lookup name <;> rfl

/-- If something comes of every item that only comes of objects, the items are those of a list. -/
theorem itemsAt_of_forall₂ {α : Type} {R : Json → α → Prop} {name : String} {document : Json}
    {items : List Json} {results : List α} (hobject : ∀ item result, R item result → IsObject item)
    (h : listMember name document = .ok items) (hresults : List.Forall₂ R items results) :
    itemsAt name document = items :=
  itemsAt_of_listMember h ((List.forall₂_and_left items results).1
    (hresults.imp fun item result hresult ↦ ⟨hobject item result hresult, hresult⟩)).1

theorem decodeEntryHead_eq (entry : Json) :
    decodeEntryHead entry = (resourceAttributes entry >>= fun attributes ↦
      Prod.mk attributes <$> decodeBlocks entry) := by
  simp only [decodeEntryHead, resourceAttributes, bind_assoc]
  rfl

/-- A resource is decoded exactly when its attributes, its blocks and all their spans are. -/
theorem decodeResource_eq_ok_iff_decodeAll {entry : Json} {records : List SpanRecord} :
    decodeResource entry = .ok records ↔
      ∃ attributes blocks, resourceAttributes entry = .ok attributes ∧
        decodeBlocks entry = .ok blocks ∧ decodeAll attributes blocks = .ok records := by
  rw [decodeResource_eq, decodeEntryHead_eq]
  simp only [bind_eq_ok_iff, mapError_eq_ok_iff, map_eq_ok_iff, Prod.exists, Prod.mk.injEq]
  constructor
  · rintro ⟨attributes, blocks, ⟨_, hattributes, _, hblocks, rfl, rfl⟩, hrecords⟩
    exact ⟨_, _, hattributes, hblocks, hrecords⟩
  · rintro ⟨attributes, blocks, hattributes, hblocks, hrecords⟩
    exact ⟨attributes, blocks, ⟨_, hattributes, _, hblocks, rfl, rfl⟩, hrecords⟩

theorem isObject_of_decodeResource {entry : Json} {records : List SpanRecord}
    (h : decodeResource entry = .ok records) : IsObject entry := by
  obtain ⟨resource, blocks, lists, hhead, -, -⟩ := decodeResource_eq_ok_iff.1 h
  obtain ⟨member, list, hmember, -⟩ := decodeEntryHead_eq_ok_iff.1 hhead
  exact isObject_of_memberOr hmember

theorem isObject_of_decodeSpan {resource : Mapping} {scope : Scope} {span : Json}
    {record : SpanRecord} (h : decodeSpan resource scope span = .ok record) : IsObject span := by
  obtain ⟨id, hid, -⟩ := (decodeSpan_eq_ok_iff.1 h).traceId
  exact isObject_of_memberOr hid

/-- A block that was read holds the spans that are in the document. -/
theorem memberOr_spans_of_readBlock {layout : Layout} {document : Json} {block : Block}
    (h : layout.readBlock document = .ok block) :
    document.memberOr "spans" (.arr []) = .ok block.spans := by
  cases layout with
  | current =>
    obtain ⟨library, -, -, hspans⟩ := decodeScopeBlock_eq_ok_iff.1 h
    exact hspans
  | former =>
    obtain ⟨library, -, -, hspans⟩ := decodeLibraryBlock_eq_ok_iff.1 h
    exact hspans

/-- The spans of a block that was read are those of its member. -/
theorem listMember_spans_of_readBlock {layout : Layout} {document : Json} {block : Block}
    (h : layout.readBlock document = .ok block) :
    listMember "spans" document = ask block.spans.elements := by
  rw [listMember, memberOr_spans_of_readBlock h]
  rfl

/-- The blocks of a layout in a resource. -/
def layoutBlocks (layout : Layout) (entry : Json) : Except DocumentError (List Block) := do
  (← listMember layout.blocksName entry).mapM layout.readBlock

/-- Blocks of the current layout come before those of the former one. -/
theorem decodeBlocks_eq_layoutBlocks (entry : Json) :
    decodeBlocks entry = inTurn (layoutBlocks .current entry) (layoutBlocks .former entry) := by
  rw [decodeBlocks_eq]
  simp only [inTurn, layoutBlocks, bind_assoc]
  rfl

/-- The blocks of a layout are read from the items under its name. -/
theorem forall₂_readBlock_itemsAt {layout : Layout} {entry : Json} {blocks : List Block}
    (h : layoutBlocks layout entry = .ok blocks) :
    List.Forall₂ (fun document block ↦ layout.readBlock document = .ok block)
      (itemsAt layout.blocksName entry) blocks := by
  obtain ⟨items, hitems, hblocks⟩ := bind_eq_ok_iff.1 h
  have hblocks := mapM_eq_ok_iff.1 hblocks
  rwa [itemsAt_of_forall₂ (fun _ _ hread ↦ isObject_of_memberOr (memberOr_spans_of_readBlock hread))
    hitems hblocks]

/-- The blocks of a resource are read in the order in which they stand. -/
theorem forall₂_readBlock_rawBlocks {entry : Json} {blocks : List Block}
    (h : decodeBlocks entry = .ok blocks) :
    List.Forall₂ (fun raw block ↦ Layout.readBlock raw.1 raw.2 = .ok block) (rawBlocks entry)
      blocks := by
  rw [decodeBlocks_eq_layoutBlocks] at h
  obtain ⟨current, former, hcurrent, hformer, rfl⟩ := inTurn_eq_ok_iff.1 h
  exact List.rel_append (List.forall₂_map_left_iff.2 (forall₂_readBlock_itemsAt hcurrent))
    (List.forall₂_map_left_iff.2 (forall₂_readBlock_itemsAt hformer))

/-- The records of a block are decoded from its spans, in order. -/
theorem forall₂_decodeSpan_itemsAt {resource : Mapping} {layout : Layout} {document : Json}
    {block : Block} {records : List SpanRecord} (hblock : layout.readBlock document = .ok block)
    (h : decodeBlock resource block = .ok records) :
    List.Forall₂ (fun span record ↦ decodeSpan resource block.scope span = .ok record)
      (itemsAt "spans" document) records := by
  obtain ⟨spans, hspans, hrecords⟩ := decodeBlock_eq_ok_iff.1 h
  have hrecords := mapM_eq_ok_iff.1 hrecords
  have hlist : listMember "spans" document = .ok spans := by
    rw [listMember_spans_of_readBlock hblock, hspans]
    rfl
  rwa [itemsAt_of_forall₂ (fun _ _ hspan ↦ isObject_of_decodeSpan hspan) hlist hrecords]

/-- The records of a resource are those of its raw spans, in order. -/
theorem forall₂_isRecordOf_of_decodeResource {entry : Json} {records : List SpanRecord}
    (h : decodeResource entry = .ok records) :
    List.Forall₂ IsRecordOf ((rawBlocks entry).flatMap fun block ↦
      (itemsAt "spans" block.2).map fun span ↦ ⟨entry, block.1, block.2, span⟩) records := by
  obtain ⟨attributes, blocks, hattributes, hblocks, hrecords⟩ :=
    decodeResource_eq_ok_iff_decodeAll.1 h
  obtain ⟨lists, hlists, rfl⟩ := map_eq_ok_iff.1 hrecords
  have hread := exists_forall₂_comp.1
    ⟨blocks, forall₂_readBlock_rawBlocks hblocks, mapM_eq_ok_iff.1 hlists⟩
  rw [List.flatMap_def]
  refine List.rel_flatten (List.forall₂_map_left_iff.2 (hread.imp ?_))
  rintro ⟨layout, document⟩ list ⟨block, hblock, hlist⟩
  refine List.forall₂_map_left_iff.2 ((forall₂_decodeSpan_itemsAt hblock hlist).imp ?_)
  exact fun span record hspan ↦ ⟨attributes, block, hattributes, hblock, hspan⟩

/-- Every span of an accepted document becomes one record, in the order of the document. -/
theorem forall₂_isRecordOf_rawSpans {document : Json} {records : List SpanRecord}
    (h : decode document = .ok records) : List.Forall₂ IsRecordOf (rawSpans document) records := by
  obtain ⟨resources, entries, lists, hresources, hentries, hlists, rfl⟩ := decode_eq_ok_iff.1 h
  have hlists := mapM_eq_ok_iff.1 hlists
  have hitems : itemsAt "resourceSpans" document = entries := by
    cases document with
    | obj members =>
      have hlookup : members.lookup "resourceSpans" = some resources := hresources
      rw [itemsAt, hlookup]
      exact listItems_of_elements hentries ((List.forall₂_and_left entries lists).1
        (hlists.imp fun entry list hlist ↦ ⟨isObject_of_decodeResource hlist, hlist⟩)).1
    | _ => cases hresources
  rw [rawSpans, hitems, List.flatMap_def]
  exact List.rel_flatten (List.forall₂_map_left_iff.2
    (hlists.imp fun entry list ↦ forall₂_isRecordOf_of_decodeResource))

/-! ### Blocks in two parts -/

namespace Layout

def readScope : Layout → Json → Except DocumentError Scope
  | .current, block => do
    let library ← ask (block.memberOr "scope" .null)
    if library.isTruthy then decodeScope library block else pure .empty
  | .former, block => do
    let library ← ask (block.memberOr "instrumentationLibrary" .null)
    return (← decodeScope (orEmptyObject library) block).toLegacy.toCurrent

theorem readBlock_eq (layout : Layout) (block : Json) :
    layout.readBlock block = (layout.readScope block >>= fun scope ↦
      Block.mk scope <$> ask (block.memberOr "spans" (.arr []))) := by
  cases layout with
  | current =>
    simp only [readBlock, readScope, decodeScopeBlock, bind_assoc]
    refine bind_congr fun library ↦ ?_
    split <;> rfl
  | former =>
    simp only [readBlock, readScope, decodeLibraryBlock, bind_assoc]
    rfl

/-- Scope and schema are all that is read of a scope. -/
theorem readScope_congr {layout : Layout} {block other : Json}
    (hscope : other.memberOr layout.scopeName .null = block.memberOr layout.scopeName .null)
    (hschema : other.memberOr "schemaUrl" .null = block.memberOr "schemaUrl" .null) :
    layout.readScope other = layout.readScope block := by
  have hlibrary : ∀ library, decodeScope library other = decodeScope library block :=
    fun library ↦ by rw [decodeScope, decodeScope, hschema]
  cases layout with
  | current =>
    have hscope : other.memberOr "scope" .null = block.memberOr "scope" .null := hscope
    simp only [readScope, hscope, hlibrary]
  | former =>
    have hscope : other.memberOr "instrumentationLibrary" .null =
        block.memberOr "instrumentationLibrary" .null := hscope
    simp only [readScope, hscope, hlibrary]

end Layout

/-- Two blocks have the scope and the schema of a block, and together they have its spans. -/
structure SplitsBlock (layout : Layout) (block first second : Json) : Prop where
  scope : ∀ part ∈ [first, second],
    part.memberOr layout.scopeName .null = block.memberOr layout.scopeName .null
  schema : ∀ part ∈ [first, second],
    part.memberOr "schemaUrl" .null = block.memberOr "schemaUrl" .null
  spans : ∃ firstSpans secondSpans, listMember "spans" first = .ok firstSpans ∧
    listMember "spans" second = .ok secondSpans ∧
      listMember "spans" block = .ok (firstSpans ++ secondSpans)

/-- Reading the spans of blocks, for any resource. -/
def reader (blocks : List Block) (resource : Mapping) : Except OtlpError (List SpanRecord) :=
  decodeAll resource blocks

/-- The reader of joined blocks reads them in turn. -/
theorem reader_append (blocks others : List Block) :
    reader (blocks ++ others) = fun resource ↦ inTurn (reader blocks resource)
      (reader others resource) :=
  funext fun resource ↦ decodeAll_append resource blocks others

/-- A block whose scope and list of spans are read is read. -/
theorem exists_readBlock {layout : Layout} {document : Json} {spans : List Json} {scope : Scope}
    (hspans : listMember "spans" document = .ok spans)
    (hscope : layout.readScope document = .ok scope) :
    ∃ block, layout.readBlock document = .ok block ∧ ∀ resource,
      decodeBlock resource block = spans.mapM (decodeSpan resource scope) := by
  obtain ⟨member, hmember, helements⟩ := bind_eq_ok_iff.1 hspans
  refine ⟨⟨scope, member⟩, ?_, fun resource ↦ ?_⟩
  · rw [Layout.readBlock_eq, hscope, hmember]
    rfl
  · rw [decodeBlock]
    dsimp only
    rw [helements]
    rfl

/-- Splitting a block makes no difference to the spans that are read, nor to a failure. -/
theorem reader_mapM_of_splitsBlock {layout : Layout} {block first second : Json}
    (h : SplitsBlock layout block first second) :
    reader <$> [first, second].mapM layout.readBlock =
      reader <$> [block].mapM layout.readBlock := by
  obtain ⟨firstSpans, secondSpans, hfirst, hsecond, hblock⟩ := h.spans
  have hscopes := fun part hpart ↦ Layout.readScope_congr (h.scope part hpart) (h.schema part hpart)
  have hfirstScope := hscopes first (by simp)
  have hsecondScope := hscopes second (by simp)
  cases hscope : layout.readScope block with
  | error error =>
    rw [hscope] at hfirstScope
    simp only [List.mapM_cons, Layout.readBlock_eq, hscope, hfirstScope, error_bind]
  | ok scope =>
    rw [hscope] at hfirstScope hsecondScope
    obtain ⟨whole, hwhole, hdecode⟩ := exists_readBlock hblock hscope
    obtain ⟨before, hbefore, hdecodeBefore⟩ := exists_readBlock hfirst hfirstScope
    obtain ⟨after, hafter, hdecodeAfter⟩ := exists_readBlock hsecond hsecondScope
    simp only [List.mapM_cons, List.mapM_nil, hwhole, hbefore, hafter, ok_bind, pure_bind, map_pure]
    refine congrArg pure (funext fun resource ↦ ?_)
    calc
      decodeAll resource ([before] ++ [after])
      _ = inTurn (decodeBlock resource before) (decodeBlock resource after) := by
        rw [decodeAll_append, decodeAll_cons_nil, decodeAll_cons_nil]
      _ = (firstSpans ++ secondSpans).mapM (decodeSpan resource scope) := by
        rw [hdecodeBefore, hdecodeAfter, List.mapM_append]
        rfl
      _ = decodeAll resource [whole] := by rw [decodeAll_cons_nil, hdecode]

/-- Blocks may be read in three parts. -/
theorem reader_mapM_append (read : Json → Except DocumentError Block)
    (before items after : List Json) :
    reader <$> (before ++ (items ++ after)).mapM read =
      (before.mapM read >>= fun first ↦ reader <$> items.mapM read >>= fun middle ↦
        after.mapM read >>= fun last ↦
          pure fun resource ↦ inTurn (reader first resource)
            (inTurn (middle resource) (reader last resource))) := by
  simp only [List.mapM_append, map_bind, map_pure, bind_assoc, pure_bind, bind_map_left,
    reader_append]

/-- Both layouts of an entry are read in turn. -/
theorem reader_decodeBlocks (entry : Json) :
    reader <$> decodeBlocks entry =
      (reader <$> layoutBlocks .current entry >>= fun current ↦
        reader <$> layoutBlocks .former entry >>= fun former ↦
          pure fun resource ↦ inTurn (current resource) (former resource)) := by
  simp only [decodeBlocks_eq_layoutBlocks, inTurn, map_bind, map_pure, bind_map_left, reader_append]

/-- A resource is decoded by the reader of its blocks. -/
theorem decodeResource_eq_reader (entry : Json) :
    decodeResource entry = ((resourceAttributes entry).mapError OtlpError.document >>=
      fun attributes ↦ (reader <$> decodeBlocks entry).mapError OtlpError.document >>=
        fun read ↦ read attributes) := by
  rw [decodeResource_eq, decodeEntryHead_eq]
  cases resourceAttributes entry with
  | error error => rfl
  | ok attributes => cases decodeBlocks entry <;> rfl

/-- A resource one of whose blocks is split. -/
structure SplitsBlockOf (entry entry' : Json) : Prop where
  resource : entry'.memberOr "resource" (.obj []) = entry.memberOr "resource" (.obj [])
  blocks : ∃ layout before block first second after, SplitsBlock layout block first second ∧
    listMember layout.blocksName entry = .ok (before ++ block :: after) ∧
    listMember layout.blocksName entry' = .ok (before ++ first :: second :: after) ∧
    listMember layout.other.blocksName entry' = listMember layout.other.blocksName entry

theorem resourceAttributes_congr {entry entry' : Json}
    (h : entry'.memberOr "resource" (.obj []) = entry.memberOr "resource" (.obj [])) :
    resourceAttributes entry' = resourceAttributes entry := by
  rw [resourceAttributes, resourceAttributes, h]

/-- A resource with a split block is decoded to the same records. -/
theorem decodeResource_of_splitsBlockOf {entry entry' : Json} (h : SplitsBlockOf entry entry') :
    decodeResource entry' = decodeResource entry := by
  obtain ⟨layout, before, block, first, second, after, hsplits, hentry, hentry', hother⟩ := h.blocks
  have hlayout : reader <$> layoutBlocks layout entry' = reader <$> layoutBlocks layout entry := by
    rw [layoutBlocks, layoutBlocks, hentry, hentry', ok_bind, ok_bind]
    show reader <$> (before ++ ([first, second] ++ after)).mapM _ =
      reader <$> (before ++ ([block] ++ after)).mapM _
    rw [reader_mapM_append, reader_mapM_append, reader_mapM_of_splitsBlock hsplits]
  have hotherBlocks : layoutBlocks layout.other entry' = layoutBlocks layout.other entry := by
    rw [layoutBlocks, layoutBlocks, hother]
  have hblocks : reader <$> decodeBlocks entry' = reader <$> decodeBlocks entry := by
    rw [reader_decodeBlocks, reader_decodeBlocks]
    cases layout with
    | current =>
      have hformer : layoutBlocks .former entry' = layoutBlocks .former entry := hotherBlocks
      rw [hlayout, hformer]
    | former =>
      have hcurrent : layoutBlocks .current entry' = layoutBlocks .current entry := hotherBlocks
      rw [hlayout, hcurrent]
  rw [decodeResource_eq_reader, decodeResource_eq_reader, hblocks,
    resourceAttributes_congr h.resource]

/-- A document with resources in place of others. -/
def Replaces (entries entries' : List Json) (document document' : Json) : Prop :=
  ∃ before after, resourceSpans? document = some (.arr (before ++ (entries ++ after))) ∧
    resourceSpans? document' = some (.arr (before ++ (entries' ++ after)))

/-- Splitting a block changes nothing. -/
theorem decode_of_splitsBlockOf {entry entry' document document' : Json}
    (hreplaces : Replaces [entry] [entry'] document document') (h : SplitsBlockOf entry entry') :
    decode document' = decode document := by
  obtain ⟨before, after, hdocument, hdocument'⟩ := hreplaces
  rw [decode_of_entries hdocument, decode_of_entries hdocument']
  simp only [flatten_mapM_append, flatten_mapM_cons_nil, decodeResource_of_splitsBlockOf h]

/-! ### Resources in two parts -/

/-- Two resources that use the layout of a resource have its attributes, and together they have its
blocks. -/
structure SplitsEntry (layout : Layout) (entry first second : Json) : Prop where
  usesOnly : ∀ part ∈ [entry, first, second], UsesOnly layout part
  resource : ∀ part ∈ [first, second],
    part.memberOr "resource" (.obj []) = entry.memberOr "resource" (.obj [])
  blocks : ∃ firstBlocks secondBlocks, listMember layout.blocksName first = .ok firstBlocks ∧
    listMember layout.blocksName second = .ok secondBlocks ∧
      listMember layout.blocksName entry = .ok (firstBlocks ++ secondBlocks)

/-- A split entry is decoded to the records of both parts. -/
theorem decodeResource_of_splitsEntry {layout : Layout} {entry first second : Json}
    (h : SplitsEntry layout entry first second) {records : List SpanRecord} :
    inTurn (decodeResource first) (decodeResource second) = .ok records ↔
      decodeResource entry = .ok records := by
  obtain ⟨firstBlocks, secondBlocks, hfirst, hsecond, hentry⟩ := h.blocks
  have hblocks : decodeBlocks entry = inTurn (decodeBlocks first) (decodeBlocks second) := by
    rw [decodeBlocks_of_usesOnly (h.usesOnly entry (by simp)),
      decodeBlocks_of_usesOnly (h.usesOnly first (by simp)),
      decodeBlocks_of_usesOnly (h.usesOnly second (by simp)), hentry, hfirst, hsecond, ok_bind,
      ok_bind, ok_bind, List.mapM_append]
    rfl
  have hresource := fun part hpart ↦ resourceAttributes_congr (h.resource part hpart)
  simp only [inTurn_eq_ok_iff, decodeResource_eq_ok_iff_decodeAll, hblocks,
    hresource first (by simp), hresource second (by simp)]
  constructor
  · rintro ⟨before, after, ⟨attributes, blocks, hattributes, hblocks, hbefore⟩,
      ⟨attributes', blocks', hattributes', hblocks', hafter⟩, rfl⟩
    obtain rfl := Except.ok.inj (hattributes.symm.trans hattributes')
    refine ⟨attributes, _, hattributes, ⟨blocks, blocks', hblocks, hblocks', rfl⟩, ?_⟩
    rw [decodeAll_append, inTurn_eq_ok_iff]
    exact ⟨before, after, hbefore, hafter, rfl⟩
  · rintro ⟨attributes, _, hattributes, ⟨blocks, blocks', hblocks, hblocks', rfl⟩, hrecords⟩
    rw [decodeAll_append, inTurn_eq_ok_iff] at hrecords
    obtain ⟨before, after, hbefore, hafter, rfl⟩ := hrecords
    exact ⟨before, after, ⟨attributes, blocks, hattributes, hblocks, hbefore⟩,
      ⟨attributes, blocks', hattributes, hblocks', hafter⟩, rfl⟩

/-- Splitting a resource that uses one layout changes nothing about what is accepted. Of a document
that is refused another failure may come first: scopes are read before spans. -/
theorem decode_eq_ok_iff_of_splitsEntry {layout : Layout}
    {entry first second document document' : Json}
    (hreplaces : Replaces [entry] [first, second] document document')
    (h : SplitsEntry layout entry first second) {records : List SpanRecord} :
    decode document' = .ok records ↔ decode document = .ok records := by
  obtain ⟨before, after, hdocument, hdocument'⟩ := hreplaces
  have hpair : List.flatten <$> [first, second].mapM decodeResource =
      inTurn (decodeResource first) (decodeResource second) := by
    rw [← flatten_mapM_cons_nil decodeResource first, ← flatten_mapM_cons_nil decodeResource second,
      ← flatten_mapM_append]
    rfl
  rw [decode_of_entries hdocument, decode_of_entries hdocument']
  simp only [flatten_mapM_append, hpair, flatten_mapM_cons_nil, inTurn_eq_ok_iff,
    decodeResource_of_splitsEntry h]

end SpanBridge.Otlp
