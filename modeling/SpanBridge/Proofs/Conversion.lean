import SpanBridge.Conversion
import SpanBridge.Proofs.Address.Canonical
import SpanBridge.Proofs.Outcome

/-!
# When a span is converted

A record becomes a span when its tags can be written, it has a kind and its service can be named
(`withoutAddress_eq_ok_iff`). The source is asked for nothing else, and its answer changes only the
address of the endpoint (`convert_eq_ok_iff`). The span has the identifiers of the record
(`identifiers_of_convert`). A source that always gives the same answer converts
each record on its own (`result_convertAll_constant`), and an address in whatever spelling as its
canonical text (`atAddress_addressFor`).
-/

set_option autoImplicit false
set_option relaxedAutoImplicit false

namespace SpanBridge.Conversion

/-- The attribute of a resource that names its service. -/
def serviceKey : Value := .str "service.name"

/-- The service of a resource can be named: the attribute that names it has a text, unless it is
missing or empty. -/
def HasServiceName (resource : Mapping) : Prop :=
  ∀ name, resource.find? serviceKey = some name → name.isTruthy = true →
    ∃ text, name.attributeText = .ok text

/-- A resource has a service name unless the attribute that names it counts as present and has no
text. -/
theorem exists_serviceName_iff (resource : Mapping) :
    (∃ service, serviceName resource = .ok service) ↔ HasServiceName resource := by
  unfold HasServiceName serviceName serviceKey
  cases hname : resource.find? (.str "service.name") with
  | none => simp
  | some name => cases htruthy : name.isTruthy <;> simp [htruthy]

/-- A record as a span without an address, given its tags, its kind and its service. -/
def spanOf (record : SpanRecord) (tags : Mapping) (kind : SpanKind) (service : String) :
    ZipkinSpan where
  traceId := record.traceId
  id := record.spanId
  parentId := record.parentId
  name := record.name
  kind := roleOf kind
  timestamp := (Zipkin.Timing.between record.start record.finish).timestamp
  duration := (Zipkin.Timing.between record.start record.finish).duration
  localEndpoint := { serviceName := service }
  tags

/-- A span without its address is put together from the tags, the kind and the service of the
record. -/
theorem withoutAddress_eq_ok_iff {record : SpanRecord} {span : ZipkinSpan} :
    withoutAddress record = .ok span ↔
      ∃ tags kind service, Zipkin.tagsOf record = .ok tags ∧ record.kind = some kind ∧
        serviceName record.resource = .ok service ∧ span = spanOf record tags kind service := by
  cases hkind : record.kind with
  | none =>
    simp [withoutAddress, hkind, bind_eq_ok_iff, throw_eq_error]
  | some kind =>
    simp only [withoutAddress, hkind, bind_eq_ok_iff, mapError_eq_ok_iff, pure_eq_ok,
      Option.elim_some, Except.ok.injEq, Option.some.injEq]
    constructor
    · rintro ⟨tags, htags, kind', rfl, service, hservice, rfl⟩
      exact ⟨tags, kind, service, htags, rfl, hservice, rfl⟩
    · rintro ⟨tags, kind', service, htags, rfl, hservice, rfl⟩
      exact ⟨tags, htags, kind, rfl, service, hservice, rfl⟩

/-- The address that a span has for an answer of its source: the canonical text, if the answer is
the text of an address. -/
def addressFor (answer : Option String) : Option String :=
  (answer.bind Address.parse?).map Address.text

/-- An answer changes nothing of a span but its address. -/
theorem locate_spanOf (answer : Option String) (record : SpanRecord) (tags : Mapping)
    (kind : SpanKind) (service : String) :
    (locate answer (spanOf record tags kind service)).1 =
      { spanOf record tags kind service with localEndpoint := ⟨service, addressFor answer⟩ } := by
  cases answer with
  | none => rfl
  | some text =>
    cases haddress : Address.parse? text <;> simp [locate, haddress, addressFor, spanOf]

variable {σ : Type}

/-- A record is converted when everything but the address is in order and the source answers. -/
theorem convert_eq_ok_iff {source : AddressSource σ} {record : SpanRecord} {state : σ}
    {span : ZipkinSpan} :
    (convert source record state).result = .ok span ↔
      ∃ bare answer, withoutAddress record = .ok bare ∧ (source.ask state).1 = .ok answer ∧
        span = (locate answer bare).1 := by
  unfold convert
  cases withoutAddress record with
  | error error => simp
  | ok bare =>
    cases hask : source.ask state with
    | mk answer next =>
      cases answer with
      | error error => simp
      | ok answer => simp [eq_comm]

/-- A span has the identifiers of its record. -/
theorem identifiers_of_convert {source : AddressSource σ} {record : SpanRecord} {state : σ}
    {span : ZipkinSpan} (h : (convert source record state).result = .ok span) :
    span.traceId = record.traceId ∧ span.id = record.spanId ∧ span.parentId = record.parentId := by
  obtain ⟨bare, answer, hbare, -, rfl⟩ := convert_eq_ok_iff.1 h
  obtain ⟨tags, kind, service, -, -, -, rfl⟩ := withoutAddress_eq_ok_iff.1 hbare
  rw [locate_spanOf]
  exact ⟨rfl, rfl, rfl⟩

/-- Records that are converted in turn are converted one by one, in states of the source. -/
theorem forall₂_of_convertAll {ε : Type} {lift : ConversionError → ε} {source : AddressSource σ}
    {records : List SpanRecord} {state : σ} {spans : List ZipkinSpan}
    (h : (convertAll lift source (records.map Except.ok) state).result = .ok spans) :
    List.Forall₂ (fun record span ↦ ∃ state, (convert source record state).result = .ok span)
      records spans := by
  induction records generalizing state spans with
  | nil =>
    obtain rfl := Except.ok.inj h
    exact .nil
  | cons record records ih =>
    simp only [List.map_cons, convertAll, convertAttempt] at h
    cases hspan : (convert source record state).result with
    | error error =>
      simp only [hspan, mapError_error] at h
      cases h
    | ok span =>
      simp only [hspan, mapError_ok] at h
      obtain ⟨others, hothers, rfl⟩ := map_eq_ok_iff.1 h
      exact .cons ⟨state, hspan⟩ (ih hothers)

/-! ### A known address -/

/-- A record as a span of a host whose address is known. -/
def atAddress (answer : Option String) (record : SpanRecord) : Except ConversionError ZipkinSpan :=
  (fun bare ↦ (locate answer bare).1) <$> withoutAddress record

/-- A constant source gives each span the same address. -/
theorem result_convert_constant (answer : Option String) (record : SpanRecord) :
    (convert (.constant answer) record ()).result = atAddress answer record := by
  unfold convert atAddress
  cases withoutAddress record <;> rfl

/-- A source with one answer converts each record on its own. -/
theorem result_convertAll_constant {ε : Type} (lift : ConversionError → ε) (answer : Option String)
    (records : List SpanRecord) :
    (convertAll lift (.constant answer) (records.map Except.ok) ()).result =
      records.mapM fun record ↦ (atAddress answer record).mapError lift := by
  induction records with
  | nil => rfl
  | cons record records ih =>
    rw [List.map_cons, convertAll, List.mapM_cons]
    dsimp only [convertAttempt]
    rw [result_convert_constant]
    cases atAddress answer record with
    | error error => rfl
    | ok span =>
      rw [mapError_ok, ok_bind]
      dsimp only
      rw [ih]
      cases records.mapM fun record ↦ (atAddress answer record).mapError lift <;> rfl

end SpanBridge.Conversion
