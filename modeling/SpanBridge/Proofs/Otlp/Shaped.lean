import SpanBridge.Proofs.Otlp.Spelling

/-!
# The shape of an OTLP document

`IsShaped` says which parts of a document have to be lists, objects, texts or numbers for its spans
to be read or refused as invalid. It asks for nothing that reading does not look at: a document
without a list of resources is shaped, and so is a span whose kind is an object, as both are refused
as such. Nothing is said either about what the lists hold beyond their own shape, such as mixed
arrays, unknown kinds or missing identifiers.
-/

set_option autoImplicit false
set_option relaxedAutoImplicit false

namespace SpanBridge.Otlp

/-! ### Parts of any kind -/

/-- Nothing is asked of a part that is not present. -/
def IfPresent (P : Json → Prop) (document : Json) : Prop := document.isTruthy = true → P document

def IsObject (document : Json) : Prop := ∃ members, document = .obj members

/-- An object whose members are of a shape. -/
def IsObjectOf (P : List (String × Json) → Prop) (document : Json) : Prop :=
  ∃ members, document = .obj members ∧ P members

/-- A sequence of items of a shape. The items of a text are its characters, those of an object its
names. -/
def IsListOf (P : Json → Prop) (document : Json) : Prop :=
  ∃ items, document.elements = .ok items ∧ ∀ item ∈ items, P item

/-- Anything but an infinite number. It stands for an integer or is refused as none. -/
def IsFinite (document : Json) : Prop := ∀ negative, document ≠ .double (.infinite negative)

/-- A number that is not too large for double precision, a truth value, or a text. -/
inductive IsNumeric : Json → Prop where
  | double (number : Double) : IsNumeric (.double number)
  | int {number : Int} {double : Double} (h : Double.ofInt? number = some double) :
    IsNumeric (.int number)
  | bool (truth : Bool) : IsNumeric (.bool truth)
  | str (text : String) : IsNumeric (.str text)

/-! ### Attributes -/

/-- The first kind, in the order in which they count, that an object has as a name, with the member
of that name. -/
def IsFirstKind (members : List (String × Json)) (kind : String) (payload : Json) : Prop :=
  (valueKinds.find? fun kind ↦ (members.lookup kind).isSome) = some kind ∧
    members.lookup kind = some payload

/-- What the value of a kind without parts has to be. Texts and truth values may be anything. -/
def IsScalar (kind : String) (payload : Json) : Prop :=
  (kind = "intValue" → IsFinite payload) ∧ (kind = "doubleValue" → IsNumeric payload)

/-- A value, or what is refused as no value: an object without a known kind, a text in which no name
of a kind occurs, and items that are no such names and that can be sorted. -/
inductive IsAnyValue : Json → Prop where
  | scalar {members : List (String × Json)} {kind : String} {payload : Json}
      (hkind : kind ≠ "arrayValue") (hfirst : IsFirstKind members kind payload)
      (h : IsScalar kind payload) :
    IsAnyValue (.obj members)
  | absent {members : List (String × Json)} {payload : Json}
      (hfirst : IsFirstKind members "arrayValue" payload) (h : payload.isTruthy = false) :
    IsAnyValue (.obj members)
  | array {members contents : List (String × Json)} {items : List Json}
      (hfirst : IsFirstKind members "arrayValue" (.obj contents))
      (hitems : (memberIn contents "values" (.arr [])).elements = .ok items)
      (h : ∀ item ∈ items, IsAnyValue item) :
    IsAnyValue (.obj members)
  | unknown {members : List (String × Json)}
      (h : ∀ kind ∈ valueKinds, members.lookup kind = none) :
    IsAnyValue (.obj members)
  | text {text : String} (h : ∀ kind ∈ valueKinds, ¬kind.toList <:+: text.toList) :
    IsAnyValue (.str text)
  | items {items : List Json} {sorted : List Value}
      (hnames : ∀ item ∈ items, ∀ kind ∈ valueKinds, item.toValue ≠ .str kind)
      (h : Value.sorted (Json.itemValues items) = .ok sorted) :
    IsAnyValue (.arr items)

/-- An array, which is an object with a list of values. -/
def IsArray : Json → Prop :=
  IfPresent (IsObjectOf fun contents ↦ IsListOf IsAnyValue (memberIn contents "values" (.arr [])))

/-- Anything but an array and an object. -/
def IsKey (document : Json) : Prop :=
  (∀ items, document ≠ .arr items) ∧ ∀ members, document ≠ .obj members

/-- The members of an attribute. -/
structure IsAttribute (members : List (String × Json)) : Prop where
  key : IfPresent IsKey (memberIn members "key" .null)
  value : IsAnyValue (memberIn members "value" (.obj []))

def IsAttributes : Json → Prop := IsListOf (IsObjectOf IsAttribute)

/-! ### Spans -/

/-- The members of an event. -/
structure IsEvent (members : List (String × Json)) : Prop where
  time : IsFinite (memberIn members "timeUnixNano" (.int 0))
  attributes : IsAttributes (memberIn members "attributes" (.arr []))

/-- The members of a span. -/
structure IsSpan (members : List (String × Json)) : Prop where
  traceId : IfPresent Json.IsString (memberIn members "traceId" .null)
  spanId : IfPresent Json.IsString (memberIn members "spanId" .null)
  parentId : IfPresent Json.IsString (memberIn members "parentSpanId" .null)
  attributes : IsAttributes (memberIn members "attributes" (.arr []))
  events : IsListOf (IsObjectOf IsEvent) (memberIn members "events" (.arr []))
  start : IsFinite (memberIn members "startTimeUnixNano" (.int 0))
  finish : IsFinite (memberIn members "endTimeUnixNano" (.int 0))
  droppedAttributes : IsFinite (memberIn members "droppedAttributesCount" (.int 0))
  droppedEvents : IsFinite (memberIn members "droppedEventsCount" (.int 0))
  status : IfPresent IsObject (memberIn members "status" .null)

/-! ### Documents -/

/-- The members of a block whose scope or library is under a name. -/
structure IsBlock (library : String) (members : List (String × Json)) : Prop where
  library : IfPresent IsObject (memberIn members library .null)
  spans : IsListOf (IsObjectOf IsSpan) (memberIn members "spans" (.arr []))

/-- The members of a resource with its blocks, in the current and in the former layout. -/
structure IsResource (members : List (String × Json)) : Prop where
  resource : IsObjectOf (fun resource ↦ IsAttributes (memberIn resource "attributes" (.arr [])))
    (memberIn members "resource" (.obj []))
  current : IsListOf (IsObjectOf (IsBlock "scope")) (memberIn members "scopeSpans" (.arr []))
  former : IsListOf (IsObjectOf (IsBlock "instrumentationLibrary"))
    (memberIn members "instrumentationLibrarySpans" (.arr []))

/-- A document in which everything that reading looks at is of the right shape. -/
def IsShaped (document : Json) : Prop :=
  ∀ members resources, document = .obj members →
    members.lookup "resourceSpans" = some resources → IsListOf (IsObjectOf IsResource) resources

end SpanBridge.Otlp
