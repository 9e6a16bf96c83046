import SpanBridge.Cli.Options
import SpanBridge.Proofs.Conversion
import SpanBridge.Proofs.LocalAddress
import SpanBridge.Proofs.Tags

/-!
# The endpoint of a converted span

The answer of a source settles the address of the endpoint once and for all (`Settles`): a text that
spells an address becomes the canonical text of the address, and any other text is ignored with a
notice. The canonical text is what is written (`members_of_canonical`), and each spelling of an
address leads to the same endpoint (`locate_of_spells`). `convert_settles_address` says so of a
conversion.
-/

set_option autoImplicit false
set_option relaxedAutoImplicit false

namespace SpanBridge

/-- The name of the member that holds an address. -/
def Address.memberName : Address → String
  | .v4 _ => "ipv4"
  | .v6 _ => "ipv6"

theorem Address.text_ne_empty {address : Address} {text : String} (h : Spells address text) :
    text ≠ "" := by
  rintro rfl
  have hnone : parse? "" = none := by decide +kernel
  rw [← parse?_eq_some_iff, hnone] at h
  cases h

/-- The canonical text of an address is written as it is, under its version. -/
theorem Endpoint.members_of_canonical {service : String} {address : Address}
    (h : address.IsReadable) :
    Endpoint.members ⟨service, some address.text⟩ =
      .ok [(.str "serviceName", .str service), (.str address.memberName, .str address.text)] := by
  have hne := Address.text_ne_empty (Address.spells_text h)
  have hparse := Address.parse_eq_ok_iff.2 (Address.spells_text h)
  unfold Endpoint.members
  split
  · next hip => cases hip
  · next hip => exact absurd (Option.some.inj hip) hne
  · next ip _ hip =>
    obtain rfl := Option.some.inj hip
    rw [hparse]
    cases address <;> rfl

namespace Conversion

/-- The address of an endpoint and the notices to which an answer leads. -/
inductive Settles : Option String → Option String → List Notice → Prop where
  | unknown : Settles none none []
  | ignored {text : String} (h : ∀ address, ¬ Address.Spells address text) :
    Settles (some text) none [.ignoredAddress (Text.quoted text)]
  | known {text : String} {address : Address} (h : Address.Spells address text) :
    Settles (some text) (some address.text) []

/-- Every spelling of an address leads to its canonical text, without a notice. -/
theorem locate_of_spells {text : String} {address : Address} (h : Address.Spells address text)
    (span : ZipkinSpan) :
    locate (some text) span =
      ({ span with localEndpoint := { span.localEndpoint with ip := some address.text } }, []) := by
  simp [locate, Address.parse?_eq_some_iff.2 h]

/-- An answer to a span without an address settles its address and the notices. -/
theorem settles_locate {span : ZipkinSpan} (h : span.localEndpoint.ip = none)
    (answer : Option String) :
    Settles answer (locate answer span).1.localEndpoint.ip (locate answer span).2 := by
  cases answer with
  | none =>
    rw [locate, h]
    exact .unknown
  | some text =>
    by_cases hspells : ∃ address, Address.Spells address text
    · obtain ⟨address, haddress⟩ := hspells
      rw [locate_of_spells haddress]
      exact .known haddress
    · have hnone : Address.parse? text = none := by
        refine Option.eq_none_iff_forall_ne_some.2 fun address haddress ↦ hspells ?_
        exact ⟨address, Address.parse?_eq_some_iff.1 haddress⟩
      rw [locate, hnone, h]
      exact .ignored fun address haddress ↦ hspells ⟨address, haddress⟩

/-- Before the source is asked a span has no address. -/
theorem ip_withoutAddress {record : SpanRecord} {bare : ZipkinSpan}
    (h : withoutAddress record = .ok bare) : bare.localEndpoint.ip = none := by
  obtain ⟨tags, kind, service, -, -, -, rfl⟩ := withoutAddress_eq_ok_iff.1 h
  rfl

variable {σ : Type}

/-- What a conversion makes of a record that is in order, given the answer of the source. -/
theorem convert_of_answer {source : AddressSource σ} {record : SpanRecord} {state : σ}
    {bare : ZipkinSpan} {answer : Option String} (hbare : withoutAddress record = .ok bare)
    (hask : (source.ask state).1 = .ok answer) :
    (convert source record state).result = .ok (locate answer bare).1 ∧
      (convert source record state).notices = (locate answer bare).2 := by
  obtain ⟨next, hnext⟩ : ∃ next, source.ask state = (.ok answer, next) :=
    ⟨(source.ask state).2, Prod.ext hask rfl⟩
  rw [convert, hbare, hnext]
  exact ⟨rfl, rfl⟩

/-- A source that answers with addresses only gives no reason for a notice. -/
theorem notices_convert_of_spells {source : AddressSource σ} {record : SpanRecord} {state : σ}
    (h : ∀ text, (source.ask state).1 = .ok (some text) → ∃ address, Address.Spells address text) :
    (convert source record state).notices = [] := by
  cases hbare : withoutAddress record with
  | error error => rw [convert, hbare]
  | ok bare =>
    cases hask : source.ask state with
    | mk answer next =>
      cases answer with
      | error error => rw [convert, hbare, hask]
      | ok answer =>
        have hanswer : (source.ask state).1 = .ok answer := by rw [hask]
        rw [(convert_of_answer hbare hanswer).2]
        cases answer with
        | none => rfl
        | some text =>
          obtain ⟨address, haddress⟩ := h text hanswer
          rw [locate_of_spells haddress]

/-- A text that stands for the address of an answer: what is written, what an option makes of the
answer, or another spelling of the address. -/
inductive StandsFor (answer : String) : String → Prop where
  | option {text : String} (h : Cli.readAddress answer = .ok text) : StandsFor answer text
  | spelling {text : String} {address : Address} (hanswer : Address.Spells address answer)
      (htext : Address.Spells address text) : StandsFor answer text

theorem exists_spells_of_standsFor {answer text : String} (h : StandsFor answer text) :
    ∃ address, Address.Spells address answer ∧ Address.Spells address text := by
  cases h with
  | option hoption =>
    cases hparse : Address.parse? answer with
    | none => simp [Cli.readAddress, hparse] at hoption
    | some address =>
      obtain rfl : address.text = text := by simpa [Cli.readAddress, hparse] using hoption
      have hspells := Address.parse?_eq_some_iff.1 hparse
      exact ⟨address, hspells, Address.spells_text (Address.isReadable_of_spells hspells)⟩
  | spelling hanswer htext => exact ⟨_, hanswer, htext⟩

theorem exists_spells_of_settles {answer : Option String} {text : String} {notices : List Notice}
    (h : Settles answer (some text) notices) :
    ∃ given address, answer = some given ∧ Address.Spells address given ∧ text = address.text := by
  cases h with
  | known hspells => exact ⟨_, _, rfl, hspells, rfl⟩

/-- The answer of the source settles the address of the endpoint: it is written as it is, and every
text that stands for it leads to the same span without a notice, the address that is written among
them. Addresses that were found out by lookups never lead to a notice. -/
theorem convert_settles_address {source : AddressSource σ} {record : SpanRecord} {state : σ}
    {answer : Option String} {span : ZipkinSpan} (hask : (source.ask state).1 = .ok answer)
    (hspan : (convert source record state).result = .ok span) :
    let service : Value × Value := (.str "serviceName", .str span.localEndpoint.serviceName)
    Settles answer span.localEndpoint.ip (convert source record state).notices ∧
    (span.localEndpoint.ip = none → span.localEndpoint.members = .ok [service]) ∧
    (∀ text, span.localEndpoint.ip = some text → ∃ given address, answer = some given ∧
      Address.Spells address given ∧
        span.localEndpoint.members = .ok [service, (.str address.memberName, .str text)]) ∧
    (∀ text, (span.localEndpoint.ip = some text ∨ ∃ given, answer = some given ∧
        StandsFor given text) →
      ∀ (τ : Type) (other : AddressSource τ) (start : τ), (other.ask start).1 = .ok (some text) →
        (convert other record start).result = .ok span ∧
          (convert other record start).notices = []) ∧
    ∀ (given : Option String) (ρ : Type) (resolver : Resolver ρ) (start : ρ) (questions : Nat),
      let lookups := LocalAddress.source given resolver
      (convert lookups record (lookups.after { resolver := start } questions)).notices = [] := by
  obtain ⟨bare, answer', hbare, hanswer, rfl⟩ := convert_eq_ok_iff.1 hspan
  obtain rfl : answer' = answer := Except.ok.inj (hanswer.symm.trans hask)
  have hsettles := settles_locate (ip_withoutAddress hbare) answer'
  rw [← (convert_of_answer hbare hask).2] at hsettles
  refine ⟨hsettles, fun hnone ↦ ?unknown, fun text htext ↦ ?written, ?again, ?lookups⟩
  case unknown =>
    unfold Endpoint.members
    rw [hnone]
    rfl
  case written =>
    rw [htext] at hsettles
    obtain ⟨given, address, rfl, hgiven, rfl⟩ := exists_spells_of_settles hsettles
    refine ⟨given, address, rfl, hgiven, ?_⟩
    rw [← Endpoint.members_of_canonical (Address.isReadable_of_spells hgiven), ← htext]
  case again =>
    intro text htext τ other start hother
    obtain ⟨given, address, rfl, hgiven, hspells⟩ : ∃ given address, answer' = some given ∧
        Address.Spells address given ∧ Address.Spells address text := by
      rcases htext with hip | ⟨given, rfl, hstands⟩
      · rw [hip] at hsettles
        obtain ⟨given, address, rfl, hgiven, rfl⟩ := exists_spells_of_settles hsettles
        exact ⟨given, address, rfl, hgiven,
          Address.spells_text (Address.isReadable_of_spells hgiven)⟩
      · obtain ⟨address, hgiven, hspells⟩ := exists_spells_of_standsFor hstands
        exact ⟨given, address, rfl, hgiven, hspells⟩
    obtain ⟨hresult, hnotices⟩ := convert_of_answer hbare hother
    rw [hresult, hnotices, locate_of_spells hspells, locate_of_spells hgiven]
    exact ⟨rfl, rfl⟩
  case lookups =>
    intro given ρ resolver start questions
    exact notices_convert_of_spells fun text htext ↦
      LocalAddress.exists_spells_of_answer given resolver htext

/-- An address with capital letters, an IPv4 address for its last groups and a zone. -/
theorem convert_settles_address_in_zone :
    ∃ span, (convert (.constant (some "2001:DB8::0.0.0.1%eth0"))
        (taggedRecord (some .server) .empty 0) ()).result = .ok span ∧
      span.localEndpoint.members = .ok [(.str "serviceName", .str unknownService),
        (.str "ipv6", .str "2001:db8::1%eth0")] ∧
      (convert (.constant (some "2001:db8::1%eth0"))
        (taggedRecord (some .server) .empty 0) ()).result = .ok span ∧
      (convert (.constant (some "2001:db8::1%eth0"))
        (taggedRecord (some .server) .empty 0) ()).notices = [] := by
  have hendpoint : (·.localEndpoint) <$> (convert (.constant (some "2001:DB8::0.0.0.1%eth0"))
      (taggedRecord (some .server) .empty 0) ()).result =
        .ok ⟨unknownService, some "2001:db8::1%eth0"⟩ := by
    decide +kernel
  obtain ⟨span, hspan, hendpoint⟩ := map_eq_ok_iff.1 hendpoint
  have hip : span.localEndpoint.ip = some "2001:db8::1%eth0" := by rw [hendpoint]
  obtain ⟨-, -, hwritten, hagain, -⟩ := convert_settles_address rfl hspan
  obtain ⟨given, address, hgiven, hspells, hmembers⟩ := hwritten _ hip
  obtain rfl := Option.some.inj hgiven
  have hversion : (Address.parse? "2001:DB8::0.0.0.1%eth0").map Address.memberName =
      some "ipv6" := by decide +kernel
  rw [Address.parse?_eq_some_iff.2 hspells, Option.map_some, Option.some.injEq] at hversion
  rw [hversion, hendpoint] at hmembers
  obtain ⟨hresult, hnotices⟩ := hagain _ (.inl hip) Unit (.constant _) () rfl
  exact ⟨span, hspan, hendpoint ▸ hmembers, hresult, hnotices⟩

end Conversion
end SpanBridge
