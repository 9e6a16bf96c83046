import SpanBridge.Trace.Attribute
import SpanBridge.Trace.Record

/-!
# Tags

The tags of a Zipkin span are its attributes in text form, followed by what has no other place
there: the scope, the status and the counts of dropped attributes and events. `attributeTags` starts
a mapping of tags and each `TagPass` adds to one; a later tag replaces the value of an earlier one
of its name.
-/

set_option autoImplicit false
set_option relaxedAutoImplicit false

namespace SpanBridge.Zipkin

/-! ### Names -/

def scopeNameTag : Value := .str "otel.scope.name"
def scopeVersionTag : Value := .str "otel.scope.version"
def libraryNameTag : Value := .str "otel.library.name"
def libraryVersionTag : Value := .str "otel.library.version"
def statusTag : Value := .str "otel.status_code"
def errorTag : Value := .str "error"
def droppedAttributesTag : Value := .str "otel.dropped_attributes_count"
def droppedEventsTag : Value := .str "otel.dropped_events_count"

/-! ### Passes -/

/-- Attributes as tags, in their order. The first attribute without a text is refused. -/
def attributeTags (attributes : Mapping) : Except AttributeError Mapping :=
  attributes.entries.foldlM (fun tags entry ↦ do
    let text ← entry.2.attributeText
    return tags.insert entry.1 (.str text)) .empty

/-- Tags a name when it is present and a version when it is given. -/
def tagNameAndVersion (nameTag versionTag name version : Value) (tags : Mapping) : Mapping :=
  (tags.insertIf name.isTruthy nameTag name).insertIf (version ≠ .null) versionTag version

/-- Tags a scope under its current and its former name. -/
def scopeTags (scope : Scope) (tags : Mapping) : Mapping :=
  let library := scope.toLegacy
  tagNameAndVersion libraryNameTag libraryVersionTag library.name library.version
    (tagNameAndVersion scopeNameTag scopeVersionTag scope.name scope.version tags)

/-- Tags a status that is set. An error is tagged with its description; without one it is tagged
with an empty text unless an attribute has named the error already. -/
def statusTags (status : Status) (tags : Mapping) : Mapping :=
  if status.code = .unset then tags
  else
    let tags := tags.insert statusTag (.str status.code.name)
    if status.code ≠ .error then tags
    else if status.description.isTruthy then tags.insert errorTag status.description
    else tags.insertIf (!tags.contains errorTag) errorTag (.str "")

/-- Tags a count that is positive. -/
def countTag (name : Value) (count : Int) (tags : Mapping) : Except AttributeError Mapping := do
  if 0 < count then
    return tags.insert name (.str (← Attribute.longText count))
  else return tags

/-- Tags how many attributes and events were dropped. -/
def dropTags (attributes events : Int) (tags : Mapping) : Except AttributeError Mapping := do
  countTag droppedEventsTag events (← countTag droppedAttributesTag attributes tags)

/-- One addition to the tags of a span. -/
inductive TagPass where
  | scope (scope : Scope)
  | status (status : Status)
  | drops (attributes events : Int)
  deriving DecidableEq, Repr

/-- The tags after a pass. -/
def TagPass.apply (tags : Mapping) : TagPass → Except AttributeError Mapping
  | .scope origin => .ok (scopeTags origin tags)
  | .status outcome => .ok (statusTags outcome tags)
  | .drops attributes events => dropTags attributes events tags

/-- The tags after passes one after another. -/
def TagPass.applyAll (tags : Mapping) (passes : List TagPass) : Except AttributeError Mapping :=
  passes.foldlM TagPass.apply tags

/-- All tags of a span: its attributes, its scope, its status and what was dropped. -/
def tagsOf (span : SpanRecord) : Except AttributeError Mapping := do
  TagPass.applyAll (← attributeTags span.attributes)
    [.scope span.scope, .status span.status, .drops span.droppedAttributes span.droppedEvents]

end SpanBridge.Zipkin
