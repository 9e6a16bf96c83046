import SpanBridge.Proofs.Otlp.Decoding
import SpanBridge.Proofs.Otlp.Layout

/-!
# Extended documents

A document consists of parts, objects of which only the members under certain names are read
(`Part.members`). A document is extended (`Extends`) by giving its parts further members under other
names and by putting the members of a part into another order, at any depth. What is read of an
extended part extends what is read of the part (`Extends.memberOr`, `Extends.listMember`), so that
nothing else needs to know how parts are extended.
-/

set_option autoImplicit false
set_option relaxedAutoImplicit false

namespace SpanBridge.Otlp

/-! ### Parts -/

/-- The objects of a document of which members are read. -/
inductive Part where
  | document
  | entry
  | resource
  | block (layout : Layout)
  | scope
  | span
  | event
  | status
  | attribute
  | value
  | array
  deriving DecidableEq, Repr

/-- What a member is read as: just as it is, a part, or a list of parts. -/
inductive Reading where
  | plain
  | part (part : Part)
  | list (part : Part)
  deriving DecidableEq, Repr

namespace Part

/-- The names under which members of a part are read, with what they are read as. -/
def members : Part → List (String × Reading)
  | .document => [("resourceSpans", .list .entry)]
  | .entry => [("resource", .part .resource), ("scopeSpans", .list (.block .current)),
      ("instrumentationLibrarySpans", .list (.block .former))]
  | .resource => [("attributes", .list .attribute)]
  | .block layout => [(layout.scopeName, .part .scope), ("schemaUrl", .plain),
      ("spans", .list .span)]
  | .scope => [("name", .plain), ("version", .plain)]
  | .span => [("traceId", .plain), ("spanId", .plain), ("parentSpanId", .plain),
      ("attributes", .list .attribute), ("events", .list .event), ("name", .plain),
      ("kind", .plain), ("startTimeUnixNano", .plain), ("endTimeUnixNano", .plain),
      ("droppedAttributesCount", .plain), ("droppedEventsCount", .plain),
      ("status", .part .status)]
  | .event => [("name", .plain), ("timeUnixNano", .plain), ("attributes", .list .attribute)]
  | .status => [("code", .plain), ("message", .plain)]
  | .attribute => [("key", .plain), ("value", .part .value)]
  | .value => [("stringValue", .plain), ("boolValue", .plain), ("intValue", .plain),
      ("doubleValue", .plain), ("arrayValue", .part .array)]
  | .array => [("values", .list .value)]

/-- What the member of a part with a name is read as, if it is read. -/
def reading? (part : Part) (name : String) : Option Reading := part.members.lookup name

end Part

/-! ### Extending -/

/-- A document in place of another that is read as the same thing. The members of a part may
themselves be extended, others may be added under names that are not read, and all may change their
order. -/
inductive Extends : Reading → Json → Json → Prop where
  | refl (reading : Reading) (document : Json) : Extends reading document document
  | part {part : Part} (changes : List (String × Json × Json)) (added : List (String × Json))
      {members : List (String × Json)}
      (hchanges : ∀ change ∈ changes,
        Extends ((part.reading? change.1).getD .plain) change.2.1 change.2.2)
      (hadded : ∀ member ∈ added, part.reading? member.1 = none)
      (hperm : members.Perm (changes.map (fun change ↦ (change.1, change.2.2)) ++ added))
      (hnames : (members.map Prod.fst).Nodup) :
      Extends (.part part) (.obj (changes.map fun change ↦ (change.1, change.2.1))) (.obj members)
  | list {part : Part} (changes : List (Json × Json))
      (hchanges : ∀ change ∈ changes, Extends (.part part) change.1 change.2) :
      Extends (.list part) (.arr (changes.map Prod.fst)) (.arr (changes.map Prod.snd))

/-- Of changed members the one that is read under a name changes as its change says, whatever is
added and whatever the order. -/
theorem lookup_of_changes {R : Reading → Json → Json → Prop} {part : Part}
    {changes : List (String × Json × Json)} {added members : List (String × Json)}
    (hchanges : ∀ change ∈ changes,
      R ((part.reading? change.1).getD .plain) change.2.1 change.2.2)
    (hadded : ∀ member ∈ added, part.reading? member.1 = none)
    (hperm : members.Perm (changes.map (fun change ↦ (change.1, change.2.2)) ++ added))
    (hnames : (members.map Prod.fst).Nodup) {name : String} {reading : Reading}
    (hread : part.reading? name = some reading) :
    Option.Rel (R reading) ((changes.map fun change ↦ (change.1, change.2.1)).lookup name)
      (members.lookup name) := by
  have hnone : added.lookup name = none := by
    refine Entries.lookup_eq_none_of_not_mem fun hname ↦ ?_
    obtain ⟨member, hmember, rfl⟩ := List.mem_map.1 hname
    cases hread.symm.trans (hadded member hmember)
  rw [Entries.lookup_of_perm hperm hnames, List.lookup_append, hnone, Option.or_none,
    Entries.lookup_map_value, Entries.lookup_map_value]
  cases hfound : changes.lookup name with
  | none => exact .none
  | some change =>
    have hchange := hchanges (name, change) (Entries.mem_of_lookup hfound)
    rw [hread] at hchange
    exact .some hchange

/-- What is read as a member that may be missing. -/
theorem getD_of_rel {R : Json → Json → Prop} {found found' : Option Json}
    (h : Option.Rel R found found') {default : Json} (hdefault : R default default) :
    R (found.getD default) (found'.getD default) := by
  cases h with
  | none => exact hdefault
  | some hvalue => exact hvalue

/-- Nothing is added inside a plain document. -/
theorem Extends.eq_of_plain {document document' : Json} (h : Extends .plain document document') :
    document' = document := by
  cases h
  rfl

/-- A plain member is the same in an extension, or missing in both. -/
theorem eq_of_rel_plain {found found' : Option Json}
    (h : Option.Rel (Extends .plain) found found') : found' = found := by
  cases h with
  | none => rfl
  | some hvalue => rw [hvalue.eq_of_plain]

namespace Extends

variable {part : Part} {reading : Reading} {document document' : Json}

/-- A member that is read of an extended part extends the member of the part. -/
theorem memberOr (h : Extends (.part part) document document') (name : String)
    (hread : part.reading? name = some reading) (default : Json) :
    Carries (Extends reading) (ask (document.memberOr name default))
      (ask (document'.memberOr name default)) := by
  cases h with
  | refl => exact fun member hmember ↦ ⟨member, hmember, .refl reading member⟩
  | part changes added hchanges hadded hperm hnames =>
    exact .ok (getD_of_rel (lookup_of_changes hchanges hadded hperm hnames hread) (.refl _ _))

/-- A member that is read as it is stays as it is. -/
theorem memberOr_eq (h : Extends (.part part) document document') (name : String)
    (hread : part.reading? name = some .plain) (default : Json) :
    document'.memberOr name default = document.memberOr name default := by
  cases h with
  | refl => rfl
  | part changes added hchanges hadded hperm hnames =>
    have hvalue := getD_of_rel (lookup_of_changes hchanges hadded hperm hnames hread)
      (.refl .plain default)
    exact congrArg Except.ok hvalue.eq_of_plain

/-- An extension stays one when an empty object stands for what counts as false. -/
theorem orEmptyObject (h : Extends (.part part) document document') :
    Extends (.part part) (orEmptyObject document) (orEmptyObject document') := by
  cases h with
  | refl => exact .refl _ _
  | part changes added hchanges hadded hperm hnames =>
    rw [orEmptyObject_obj, orEmptyObject_obj]
    exact .part changes added hchanges hadded hperm hnames

/-- The items of an extended list extend the items of the list one by one. -/
theorem elements (h : Extends (.list part) document document') :
    Carries (List.Forall₂ (Extends (.part part))) (ask document.elements)
      (ask document'.elements) := by
  cases h with
  | refl => exact fun items hitems ↦ ⟨items, hitems, List.forall₂_same.2 fun _ _ ↦ .refl _ _⟩
  | list changes hchanges =>
    refine .ok ?_
    rw [List.forall₂_map_left_iff, List.forall₂_map_right_iff, List.forall₂_same]
    exact hchanges

/-- The items under a name are extended one by one. -/
theorem listMember {item : Part} (h : Extends (.part part) document document') (name : String)
    (hread : part.reading? name = some (.list item)) :
    Carries (List.Forall₂ (Extends (.part item))) (listMember name document)
      (listMember name document') :=
  (h.memberOr name hread _).bind fun _ _ hlist ↦ hlist.elements

end Extends
end SpanBridge.Otlp
