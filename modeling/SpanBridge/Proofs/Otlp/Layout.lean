import SpanBridge.Proofs.Otlp.Draft

/-!
# The two layouts of a document

A document may list the spans of a resource in the current or in the former layout. `switchEntry`
exchanges them: the lists of blocks change places, and so do the names of the scope in each block.
Where a resource uses one layout only, the same records are read afterwards but for the schemas of
scopes (`decode_switched`), and exactly the same unless a block has a schema and no scope: the
current layout drops the schema of such a block and the former one keeps it (`layouts_differ`).
-/

set_option autoImplicit false
set_option relaxedAutoImplicit false

namespace SpanBridge

/-! ### Scopes are passed on -/

def SpanDraft.mapScope (f : Scope → Scope) (draft : SpanDraft) : SpanDraft :=
  { draft with scope := f draft.scope }

def SpanRecord.mapScope (f : Scope → Scope) (record : SpanRecord) : SpanRecord :=
  { record with scope := f record.scope }

theorem SpanDraft.check_mapScope (f : Scope → Scope) (draft : SpanDraft) :
    (draft.mapScope f).check = SpanRecord.mapScope f <$> draft.check := by
  unfold check
  refine guard_eq_map Iff.rfl fun _ _ ↦ ?_
  refine guard_eq_map Iff.rfl fun _ _ ↦ ?_
  refine guard_eq_map Iff.rfl fun _ _ ↦ ?_
  refine guard_eq_map Iff.rfl fun _ _ ↦ ?_
  refine guard_eq_map Iff.rfl fun _ _ ↦ ?_
  rfl

namespace Otlp

def Block.mapScope (f : Scope → Scope) (block : Block) : Block :=
  { block with scope := f block.scope }

/-- A change of scope passes through the decoding of a draft. -/
theorem decodeDraft_mapScope (f : Scope → Scope) (resource : Mapping) (scope : Scope)
    (span : Json) :
    decodeDraft resource (f scope) span =
      SpanDraft.mapScope f <$> decodeDraft resource scope span := by
  unfold decodeDraft
  simp only [map_bind, apply_ite (Functor.map (SpanDraft.mapScope f)), map_pure]
  rfl

/-- The scope of a span makes no difference to how the span is read. -/
theorem decodeSpan_mapScope (f : Scope → Scope) (resource : Mapping) (scope : Scope) (span : Json) :
    decodeSpan resource (f scope) span =
      SpanRecord.mapScope f <$> decodeSpan resource scope span := by
  rw [decodeSpan, decodeSpan, decodeDraft_mapScope]
  cases decodeDraft resource scope span with
  | error error => rfl
  | ok draft =>
    rw [map_ok, mapError_ok, mapError_ok, ok_bind, ok_bind, SpanDraft.check_mapScope]
    cases draft.check <;> rfl

theorem decodeBlock_mapScope (f : Scope → Scope) (resource : Mapping) (block : Block) :
    decodeBlock resource (block.mapScope f) =
      List.map (SpanRecord.mapScope f) <$> decodeBlock resource block := by
  have hspan : decodeSpan resource (f block.scope) =
      fun span ↦ SpanRecord.mapScope f <$> decodeSpan resource block.scope span :=
    funext (decodeSpan_mapScope f resource block.scope)
  rw [decodeBlock, decodeBlock, map_bind]
  simp only [Block.mapScope, hspan, mapM_map_results]

def decodeAll (resource : Mapping) (blocks : List Block) : Except OtlpError (List SpanRecord) :=
  List.flatten <$> blocks.mapM (decodeBlock resource)

theorem decodeAll_mapScope (f : Scope → Scope) (resource : Mapping) (blocks : List Block) :
    decodeAll resource (blocks.map (Block.mapScope f)) =
      List.map (SpanRecord.mapScope f) <$> decodeAll resource blocks := by
  have hblock : decodeBlock resource ∘ Block.mapScope f =
      fun block ↦ List.map (SpanRecord.mapScope f) <$> decodeBlock resource block :=
    funext (decodeBlock_mapScope f resource)
  rw [decodeAll, decodeAll, List.mapM_map, hblock, mapM_map_results]
  cases blocks.mapM (decodeBlock resource) with
  | error error => rfl
  | ok lists => exact congrArg Except.ok (List.map_flatten ..).symm

/-- The attributes of a resource and its blocks with other scopes. -/
def mapBlocks (f : Scope → Scope) (head : Mapping × List Block) : Mapping × List Block :=
  (head.1, head.2.map (Block.mapScope f))

theorem decodeResource_eq (entry : Json) :
    decodeResource entry = ((decodeEntryHead entry).mapError OtlpError.document >>= fun head ↦
      decodeAll head.1 head.2) := rfl

/-- A change of scope in all records is one in all blocks of the head. -/
theorem decodeResource_mapScope (f : Scope → Scope) (entry : Json) :
    List.map (SpanRecord.mapScope f) <$> decodeResource entry =
      ((mapBlocks f <$> decodeEntryHead entry).mapError OtlpError.document >>= fun head ↦
        decodeAll head.1 head.2) := by
  rw [decodeResource_eq]
  cases decodeEntryHead entry with
  | error error => rfl
  | ok head => exact (decodeAll_mapScope f head.1 head.2).symm

/-! ### Exchanged names -/

/-- The name that a name becomes when two names are exchanged. -/
def exchange (first second name : String) : String :=
  if name = first then second else if name = second then first else name

/-- An exchange of two names keeps different names apart. -/
theorem exchange_injective (first second : String) :
    Function.Injective (exchange first second) := by
  intro name other h
  unfold exchange at h
  split_ifs at h <;> simp_all

/-- An object with other names and other values for them. -/
def renamed (rename : String → String) (change : String → Json → Json) : Json → Json
  | .obj members => .obj (members.map fun member ↦ (rename member.1, change member.1 member.2))
  | document => document

/-- Members are found under their new names. -/
theorem member?_renamed {rename : String → String} (hrename : Function.Injective rename)
    (change : String → Json → Json) (name : String) (document : Json) :
    (renamed rename change document).member? (rename name) =
      Option.map (change name) <$> document.member? name := by
  cases document with
  | obj members =>
    rw [renamed, Json.member?, Json.member?, map_ok, Except.ok.injEq]
    induction members with
    | nil => rfl
    | cons member members ih =>
      obtain ⟨key, value⟩ := member
      rw [List.map_cons, List.lookup_cons, List.lookup_cons]
      by_cases hkey : name = key
      · subst hkey
        simp
      · have hrenamed : rename name ≠ rename key := fun heq ↦ hkey (hrename heq)
        rw [beq_false_of_ne hkey, beq_false_of_ne hrenamed]
        exact ih
  | _ => rfl

/-- A renamed member is found under its new name. -/
theorem memberOr_renamed {rename : String → String} (hrename : Function.Injective rename)
    (change : String → Json → Json) (name : String) (document : Json) {default : Json}
    (hdefault : change name default = default) :
    (renamed rename change document).memberOr (rename name) default =
      change name <$> document.memberOr name default := by
  rw [Json.memberOr, Json.memberOr, member?_renamed hrename]
  cases document.member? name with
  | error error => rfl
  | ok found =>
    cases found with
    | none => exact congrArg Except.ok hdefault.symm
    | some value => rfl

/-! ### Layouts -/

/-- The layouts of a resource. -/
inductive Layout where
  | current
  | former
  deriving DecidableEq, Repr

namespace Layout

/-- The layout that a layout is exchanged with. -/
def other : Layout → Layout
  | .current => .former
  | .former => .current

def blocksName : Layout → String
  | .current => "scopeSpans"
  | .former => "instrumentationLibrarySpans"

def scopeName : Layout → String
  | .current => "scope"
  | .former => "instrumentationLibrary"

def readBlock : Layout → Json → Except DocumentError Block
  | .current => decodeScopeBlock
  | .former => decodeLibraryBlock

end Layout

def switchBlock : Json → Json :=
  renamed (exchange "scope" "instrumentationLibrary") fun _ value ↦ value

/-- A list of blocks in the other layout. -/
def switchBlocks : Json → Json
  | .arr blocks => .arr (blocks.map switchBlock)
  | blocks => blocks

/-- A member of a resource in the other layout. -/
def switchMember (name : String) (value : Json) : Json :=
  if name = "scopeSpans" ∨ name = "instrumentationLibrarySpans" then switchBlocks value else value

/-- A resource with its spans in the other layout. -/
def switchEntry : Json → Json :=
  renamed (exchange "scopeSpans" "instrumentationLibrarySpans") switchMember

/-- A switched block has its scope under the other name and all else in place. -/
theorem memberOr_switchBlock (block : Json) (name : String) (default : Json) :
    (switchBlock block).memberOr (exchange "scope" "instrumentationLibrary" name) default =
      block.memberOr name default := by
  rw [switchBlock, memberOr_renamed (exchange_injective _ _) _ _ _ rfl, id_map']

theorem elements_switchBlocks (blocks : Json) :
    (switchBlocks blocks).elements = List.map switchBlock <$> blocks.elements := by
  cases blocks with
  | str text =>
    refine congrArg Except.ok ?_
    rw [List.map_map]
    rfl
  | obj members =>
    refine congrArg Except.ok ?_
    rw [List.map_map]
    rfl
  | _ => rfl

/-- The blocks of a switched entry stand under the other name. -/
theorem listMember_switchEntry (layout : Layout) (entry : Json) :
    listMember layout.other.blocksName (switchEntry entry) =
      List.map switchBlock <$> listMember layout.blocksName entry := by
  have hname : layout.other.blocksName =
      exchange "scopeSpans" "instrumentationLibrarySpans" layout.blocksName := by
    cases layout <;> rfl
  have hmember : switchMember layout.blocksName = switchBlocks := by
    cases layout <;> rfl
  rw [listMember, listMember, hname, switchEntry,
    memberOr_renamed (exchange_injective _ _) _ _ _ (by rw [hmember]; rfl), hmember]
  cases entry.memberOr layout.blocksName (.arr []) with
  | error error => rfl
  | ok blocks =>
    show ask (switchBlocks blocks).elements = List.map switchBlock <$> ask blocks.elements
    rw [elements_switchBlocks]
    cases blocks.elements <;> rfl

theorem resource_switchEntry (entry : Json) (default : Json) :
    (switchEntry entry).memberOr "resource" default = entry.memberOr "resource" default := by
  have hname : exchange "scopeSpans" "instrumentationLibrarySpans" "resource" = "resource" := by
    decide
  have hmember : switchMember "resource" = id := rfl
  rw [switchEntry, ← hname, memberOr_renamed (exchange_injective _ _) _ _ _ rfl, hname, hmember,
    id_map]

/-! ### Blocks -/

def withoutSchema (scope : Scope) : Scope := { scope with schemaUrl := .null }

/-- A block of a layout has a scope if it has a schema. -/
def KeepsSchema (layout : Layout) (block : Json) : Prop :=
  ∀ library schema, block.memberOr layout.scopeName .null = .ok library →
    block.memberOr "schemaUrl" .null = .ok schema → schema.isTruthy = true →
      library.isTruthy = true

/-- Where one member can be asked for, every other can. -/
theorem exists_memberOr {document default member : Json} {name : String}
    (h : document.memberOr name default = .ok member) (other : String) (default' : Json) :
    ∃ found, document.memberOr other default' = .ok found := by
  cases document with
  | obj members => exact ⟨_, rfl⟩
  | _ => cases h

/-- A block reads the same in both layouts, as far as a function of scopes does not see the schema
of a block without a scope. -/
theorem decodeLibraryBlock_map_eq {f : Scope → Scope} {block block' : Json}
    (hlibrary : block'.memberOr "instrumentationLibrary" .null = block.memberOr "scope" .null)
    (hschema : block'.memberOr "schemaUrl" .null = block.memberOr "schemaUrl" .null)
    (hspans : block'.memberOr "spans" (.arr []) = block.memberOr "spans" (.arr []))
    (hempty : ∀ library schema, block.memberOr "scope" .null = .ok library →
      block.memberOr "schemaUrl" .null = .ok schema → library.isTruthy = false →
        f ⟨.str "", .null, schema.toValue.orNull⟩ = f .empty) :
    Block.mapScope f <$> decodeLibraryBlock block' =
      Block.mapScope f <$> decodeScopeBlock block := by
  unfold decodeLibraryBlock decodeScopeBlock
  rw [hlibrary, hspans]
  cases hfound : block.memberOr "scope" .null with
  | error error => rfl
  | ok library =>
    rw [ask_ok, ok_bind, ok_bind]
    cases htruthy : library.isTruthy with
    | true =>
      have hscope : decodeScope (orEmptyObject library) block' = decodeScope library block := by
        rw [orEmptyObject, if_pos htruthy, decodeScope, decodeScope, hschema]
      rw [hscope, if_pos rfl]
      cases decodeScope library block <;> rfl
    | false =>
      obtain ⟨schema, hblock⟩ := exists_memberOr hfound "schemaUrl" .null
      have hscope : decodeScope (orEmptyObject library) block' =
          .ok ⟨.str "", .null, schema.toValue.orNull⟩ := by
        rw [orEmptyObject, if_neg (by simp [htruthy]), decodeScope, hschema, hblock]
        rfl
      rw [hscope, if_neg Bool.false_ne_true]
      cases block.memberOr "spans" (.arr []) with
      | error error => rfl
      | ok spans =>
        exact congrArg (fun scope ↦ Except.ok (Block.mk scope spans))
          (hempty library schema hfound hblock htruthy)

/-- A switched block is read alike where the change of scope levels the schema of an empty one. -/
theorem readBlock_switchBlock_map_eq {f : Scope → Scope} {layout : Layout} {block : Json}
    (hempty : ∀ library schema, block.memberOr layout.scopeName .null = .ok library →
      block.memberOr "schemaUrl" .null = .ok schema → library.isTruthy = false →
        f ⟨.str "", .null, schema.toValue.orNull⟩ = f .empty) :
    Block.mapScope f <$> layout.other.readBlock (switchBlock block) =
      Block.mapScope f <$> layout.readBlock block := by
  have hscope : (switchBlock block).memberOr layout.other.scopeName .null =
      block.memberOr layout.scopeName .null := by
    rw [← memberOr_switchBlock block layout.scopeName]
    cases layout <;> rfl
  have hschema : (switchBlock block).memberOr "schemaUrl" .null =
      block.memberOr "schemaUrl" .null := memberOr_switchBlock block "schemaUrl" .null
  have hspans : (switchBlock block).memberOr "spans" (.arr []) = block.memberOr "spans" (.arr []) :=
    memberOr_switchBlock block "spans" (.arr [])
  cases layout with
  | current => exact decodeLibraryBlock_map_eq hscope hschema hspans hempty
  | former =>
    refine (decodeLibraryBlock_map_eq hscope.symm hschema.symm hspans.symm ?_).symm
    rw [hschema]
    exact fun library schema hlibrary ↦ hempty library schema (hscope.symm.trans hlibrary)

/-- Without the schemas of scopes a block reads the same in both layouts. -/
theorem readBlock_switchBlock (layout : Layout) (block : Json) :
    Block.mapScope withoutSchema <$> layout.other.readBlock (switchBlock block) =
      Block.mapScope withoutSchema <$> layout.readBlock block :=
  readBlock_switchBlock_map_eq fun _ _ _ _ _ ↦ rfl

/-- A switched block is read alike where no schema is lost. -/
theorem readBlock_switchBlock_of_keepsSchema {layout : Layout} {block : Json}
    (h : KeepsSchema layout block) :
    Block.mapScope id <$> layout.other.readBlock (switchBlock block) =
      Block.mapScope id <$> layout.readBlock block := by
  refine readBlock_switchBlock_map_eq fun library schema hlibrary hschema hempty ↦ ?_
  have hfalsy : ¬schema.isTruthy = true := by
    intro hschemaTruthy
    rw [h library schema hlibrary hschema hschemaTruthy] at hempty
    cases hempty
  have hnull : schema.toValue.orNull = .null := if_neg hfalsy
  rw [hnull]
  rfl

/-! ### Resources -/

/-- A resource whose spans are all in one layout. -/
def UsesOnly (layout : Layout) (entry : Json) : Prop :=
  listMember layout.other.blocksName entry = .ok []

theorem decodeBlocks_eq (entry : Json) :
    decodeBlocks entry = (do
      let current ← (← listMember "scopeSpans" entry).mapM decodeScopeBlock
      let former ← (← listMember "instrumentationLibrarySpans" entry).mapM decodeLibraryBlock
      return current ++ former) := by
  simp only [decodeBlocks, listMember, bind_assoc]

/-- An entry of one layout has the blocks of this layout. -/
theorem decodeBlocks_of_usesOnly {layout : Layout} {entry : Json} (h : UsesOnly layout entry) :
    decodeBlocks entry = (listMember layout.blocksName entry >>= fun blocks ↦
      blocks.mapM layout.readBlock) := by
  rw [decodeBlocks_eq]
  cases layout with
  | current =>
    have hnone : listMember "instrumentationLibrarySpans" entry = .ok [] := h
    refine bind_congr fun blocks ↦ ?_
    rw [hnone]
    show (blocks.mapM decodeScopeBlock >>= fun current ↦ .ok (current ++ [])) =
      blocks.mapM decodeScopeBlock
    cases blocks.mapM decodeScopeBlock with
    | error error => rfl
    | ok current => exact congrArg Except.ok (List.append_nil current)
  | former =>
    have hnone : listMember "scopeSpans" entry = .ok [] := h
    rw [hnone, ok_bind, List.mapM_nil, pure_bind]
    refine bind_congr fun blocks ↦ ?_
    show (blocks.mapM decodeLibraryBlock >>= fun former ↦ .ok ([] ++ former)) =
      blocks.mapM decodeLibraryBlock
    cases blocks.mapM decodeLibraryBlock <;> rfl

theorem usesOnly_switchEntry {layout : Layout} {entry : Json} (h : UsesOnly layout entry) :
    UsesOnly layout.other (switchEntry entry) := by
  rw [UsesOnly, listMember_switchEntry, h]
  rfl

/-- A switched entry has the same blocks where each switched block is read alike. -/
theorem decodeBlocks_switchEntry {f : Scope → Scope} {layout : Layout} {entry : Json}
    (hone : UsesOnly layout entry)
    (hblocks : ∀ blocks, listMember layout.blocksName entry = .ok blocks → ∀ block ∈ blocks,
      Block.mapScope f <$> layout.other.readBlock (switchBlock block) =
        Block.mapScope f <$> layout.readBlock block) :
    List.map (Block.mapScope f) <$> decodeBlocks (switchEntry entry) =
      List.map (Block.mapScope f) <$> decodeBlocks entry := by
  rw [decodeBlocks_of_usesOnly hone, decodeBlocks_of_usesOnly (usesOnly_switchEntry hone),
    listMember_switchEntry]
  cases hlist : listMember layout.blocksName entry with
  | error error => rfl
  | ok blocks =>
    rw [map_ok, ok_bind, ok_bind, List.mapM_map, ← mapM_map_results, ← mapM_map_results]
    exact mapM_congr (hblocks blocks hlist)

theorem decodeEntryHead_switchEntry {f : Scope → Scope} {layout : Layout} {entry : Json}
    (hone : UsesOnly layout entry)
    (hblocks : ∀ blocks, listMember layout.blocksName entry = .ok blocks → ∀ block ∈ blocks,
      Block.mapScope f <$> layout.other.readBlock (switchBlock block) =
        Block.mapScope f <$> layout.readBlock block) :
    mapBlocks f <$> decodeEntryHead (switchEntry entry) =
      mapBlocks f <$> decodeEntryHead entry := by
  have hblocks := decodeBlocks_switchEntry hone hblocks
  unfold decodeEntryHead
  rw [resource_switchEntry]
  simp only [map_bind, map_pure]
  refine bind_congr fun resource ↦ bind_congr fun list ↦ bind_congr fun attributes ↦ ?_
  have hhead : ∀ read : Except DocumentError (List Block),
      (read >>= fun blocks ↦ pure (mapBlocks f (attributes, blocks))) =
        (Prod.mk attributes <$> (List.map (Block.mapScope f) <$> read)) := by
    rintro (error | blocks) <;> rfl
  rw [hhead, hhead, hblocks]

theorem decodeResource_switchEntry {f : Scope → Scope} {layout : Layout} {entry : Json}
    (hone : UsesOnly layout entry)
    (hblocks : ∀ blocks, listMember layout.blocksName entry = .ok blocks → ∀ block ∈ blocks,
      Block.mapScope f <$> layout.other.readBlock (switchBlock block) =
        Block.mapScope f <$> layout.readBlock block) :
    List.map (SpanRecord.mapScope f) <$> decodeResource (switchEntry entry) =
      List.map (SpanRecord.mapScope f) <$> decodeResource entry := by
  rw [decodeResource_mapScope, decodeResource_mapScope, decodeEntryHead_switchEntry hone hblocks]

/-! ### Documents -/

/-- A resource is as it was, or it uses one layout and is switched to the other, and its blocks have
a property. -/
inductive Switches (property : Layout → Json → Prop) (entry : Json) : Json → Prop where
  | kept : Switches property entry entry
  | switched {layout : Layout} (h : UsesOnly layout entry)
      (hblocks : ∀ blocks, listMember layout.blocksName entry = .ok blocks →
        ∀ block ∈ blocks, property layout block) :
      Switches property entry (switchEntry entry)

/-- The records of a document are those of its resources in order. -/
theorem decode_of_entries {document : Json} {entries : List Json}
    (h : resourceSpans? document = some (.arr entries)) :
    decode document = List.flatten <$> entries.mapM decodeResource := by
  rw [decode, h]
  rfl

/-- A change of scope in all records is one in the records of each resource. -/
theorem decode_mapScope {document : Json} {entries : List Json}
    (h : resourceSpans? document = some (.arr entries)) (f : Scope → Scope) :
    List.map (SpanRecord.mapScope f) <$> decode document =
      List.flatten <$> entries.mapM fun entry ↦
        List.map (SpanRecord.mapScope f) <$> decodeResource entry := by
  rw [decode_of_entries h, mapM_map_results]
  cases entries.mapM decodeResource with
  | error error => rfl
  | ok lists => exact congrArg Except.ok (List.map_flatten ..)

/-- Switching resources makes no difference that a function of scopes sees, if it makes none for the
blocks. -/
theorem decode_switches {f : Scope → Scope} {property : Layout → Json → Prop}
    (hproperty : ∀ layout block, property layout block →
      Block.mapScope f <$> layout.other.readBlock (switchBlock block) =
        Block.mapScope f <$> layout.readBlock block)
    {document document' : Json} {entries entries' : List Json}
    (hdocument : resourceSpans? document = some (.arr entries))
    (hdocument' : resourceSpans? document' = some (.arr entries'))
    (hswitches : List.Forall₂ (Switches property) entries entries') :
    List.map (SpanRecord.mapScope f) <$> decode document' =
      List.map (SpanRecord.mapScope f) <$> decode document := by
  rw [decode_mapScope hdocument, decode_mapScope hdocument']
  refine congrArg (List.flatten <$> ·) (mapM_eq_of_forall₂ (hswitches.imp ?_)).symm
  rintro entry _ (_ | ⟨hone, hblocks⟩)
  · rfl
  · exact (decodeResource_switchEntry hone fun blocks hlist block hblock ↦
      hproperty _ block (hblocks blocks hlist block hblock)).symm

/-- Switching resources that use one layout to the other changes nothing but the schemas of scopes:
the same records are read, or the same failure is reported. Nothing changes at all if no block that
is switched has a schema and no scope. -/
theorem decode_switched {document document' : Json} {entries entries' : List Json}
    (hdocument : resourceSpans? document = some (.arr entries))
    (hdocument' : resourceSpans? document' = some (.arr entries')) :
    (List.Forall₂ (Switches fun _ _ ↦ True) entries entries' →
      List.map (SpanRecord.mapScope withoutSchema) <$> decode document' =
        List.map (SpanRecord.mapScope withoutSchema) <$> decode document) ∧
    (List.Forall₂ (Switches KeepsSchema) entries entries' →
      decode document' = decode document) := by
  constructor
  · exact decode_switches (fun layout block _ ↦ readBlock_switchBlock layout block) hdocument
      hdocument'
  · intro hswitches
    have hmapped := decode_switches (fun _ _ ↦ readBlock_switchBlock_of_keepsSchema) hdocument
      hdocument' hswitches
    have hid : List.map (SpanRecord.mapScope id) = id := List.map_id_fun
    rwa [hid, id_map, id_map] at hmapped

def documentOf (entries : List Json) : Json := .obj [("resourceSpans", .arr entries)]

/-- A resource with one span in the current layout. Its block has a schema and the given members. -/
def entryWith (members : List (String × Json)) : Json :=
  .obj [("scopeSpans", .arr [.obj (members ++ [("schemaUrl", .str "u"),
    ("spans", .arr [.obj [("traceId", .str "0a"), ("spanId", .str "0b")]])])])]

def scopedEntry : Json := entryWith [("scope", .obj [("name", .str "lib")])]

def unscopedEntry : Json := entryWith []

/-- A block with a scope and a schema reads the same in both layouts, schema and all. -/
theorem decode_switched_scopedEntry :
    decode (documentOf [switchEntry scopedEntry]) = decode (documentOf [scopedEntry]) ∧
      List.map (·.scope) <$> decode (documentOf [scopedEntry]) =
        .ok [⟨.str "lib", .null, .str "u"⟩] := by
  have hone : UsesOnly .current scopedEntry := rfl
  have hkeeps : ∀ blocks, listMember Layout.current.blocksName scopedEntry = .ok blocks →
      ∀ block ∈ blocks, KeepsSchema .current block := by
    intro blocks hblocks block hblock library schema hlibrary hschema _
    obtain rfl := Except.ok.inj hblocks
    obtain rfl := List.mem_singleton.1 hblock
    obtain rfl := Except.ok.inj hlibrary
    rfl
  exact ⟨(decode_switched rfl rfl).2 (.cons (.switched hone hkeeps) .nil), by decide +kernel⟩

/-- The former layout keeps the schema of a block without a scope, and the current layout drops it.
-/
theorem layouts_differ :
    UsesOnly .current unscopedEntry ∧
      List.map (·.scope) <$> decode (documentOf [unscopedEntry]) =
        .ok [⟨.str "", .null, .null⟩] ∧
      List.map (·.scope) <$> decode (documentOf [switchEntry unscopedEntry]) =
        .ok [⟨.str "", .null, .str "u"⟩] := by
  exact ⟨rfl, by decide +kernel, by decide +kernel⟩

end Otlp
end SpanBridge
