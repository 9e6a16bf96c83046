import SpanBridge.Proofs.Address.Canonical
import SpanBridge.Proofs.AddressSource
import SpanBridge.Proofs.PreferredAddress

/-!
# The local address is found out once

A resolution is malformed when a text of an IP family spells no address (`IsMalformed`), and has no
usable address when the name does not resolve or none of the addresses can be used by other hosts
(`HasNoUsable`). Asking makes one lookup as long as nothing was found out (`ask_unsettled`), and
none afterwards (`ask_settled`). So the questions that fail come first, each with one lookup of the
same name, and the first reply stays (`source_settles`).
-/

set_option autoImplicit false
set_option relaxedAutoImplicit false

namespace SpanBridge

variable {ρ : Type}

/-- The state of a resolver after a number of lookups of one name. -/
def Resolver.after (resolver : Resolver ρ) (name : String) (start : ρ) (lookups : Nat) : ρ :=
  (fun state ↦ (resolver.lookup name state).2)^[lookups] start

/-- What a name resolves to at a lookup, counted from zero. -/
def Resolver.found (resolver : Resolver ρ) (name : String) (start : ρ) (lookup : Nat) :
    Resolution :=
  (resolver.lookup name (resolver.after name start lookup)).1

theorem Resolver.after_succ (resolver : Resolver ρ) (name : String) (start : ρ) (lookups : Nat) :
    resolver.after name start (lookups + 1) =
      (resolver.lookup name (resolver.after name start lookups)).2 :=
  Function.iterate_succ_apply' _ _ _

namespace LocalAddress

/-! ### What a resolution says -/

/-- The texts of a resolution that should be IP addresses, without the zones. -/
def candidates (found : List (AddressFamily × String)) : List String :=
  (found.filter (·.1.isIp)).map fun entry ↦ withoutZone entry.2

/-- A resolution that holds a text which should be an IP address and is none. -/
def IsMalformed : Resolution → Prop
  | none => False
  | some found => ∃ text ∈ candidates found, ∀ address, ¬ Address.Spells address text

/-- A resolution without an address that other hosts can use: the name does not resolve, or its
addresses are all for this host or this link. -/
def HasNoUsable : Resolution → Prop
  | none => True
  | some found =>
    ∃ addresses, List.Forall₂ Address.Spells addresses (candidates found) ∧
      ∀ address ∈ addresses, address.isUsable = false

/-- A resolution with a usable address, of which this is the canonical text. -/
def Offers (text : String) : Resolution → Prop
  | none => False
  | some found =>
    ∃ addresses, List.Forall₂ Address.Spells addresses (candidates found) ∧
      ∃ address ∈ addresses, address.isUsable = true ∧ address.text = text

/-- Addresses are read exactly when each candidate spells one. -/
theorem addresses_eq_ok_iff {found : List (AddressFamily × String)} {results : List Address} :
    addresses found = .ok results ↔ List.Forall₂ Address.Spells results (candidates found) := by
  rw [addresses, mapM_eq_ok_iff, candidates, List.forall₂_map_right_iff]
  simp only [Address.parse_eq_ok_iff]
  exact ⟨.flip, .flip⟩

/-- Partners for all items exist exactly when each item has one. -/
theorem exists_forall₂_iff {α β : Type} {R : α → β → Prop} {items : List β} :
    (∃ results, List.Forall₂ R results items) ↔ ∀ item ∈ items, ∃ result, R result item := by
  induction items with
  | nil => simp
  | cons item items ih =>
    rw [List.forall_mem_cons, ← ih]
    constructor
    · rintro ⟨_, _ | ⟨hitem, hitems⟩⟩
      exact ⟨⟨_, hitem⟩, _, hitems⟩
    · rintro ⟨⟨result, hitem⟩, results, hitems⟩
      exact ⟨_, .cons hitem hitems⟩

/-- The answer is the preferred one of the addresses that the candidates spell. -/
theorem select_eq_ok_iff {found : List (AddressFamily × String)} {answer : Option String} :
    select found = .ok answer ↔
      ∃ results, List.Forall₂ Address.Spells results (candidates found) ∧
        (preferred results).map Address.text = answer := by
  simp [select, bind_eq_ok_iff, addresses_eq_ok_iff, pure_eq_ok]

/-- No answer is selected exactly when a candidate is malformed. -/
theorem select_eq_error_iff (resolution : Resolution) :
    (∃ error, select (resolution.getD []) = .error error) ↔ IsMalformed resolution := by
  have hsome (found : List (AddressFamily × String)) :
      (∃ answer, select found = .ok answer) ↔
        ∀ text ∈ candidates found, ∃ address, Address.Spells address text := by
    simp only [select_eq_ok_iff, ← exists_forall₂_iff]
    exact ⟨fun ⟨_, results, hresults, _⟩ ↦ ⟨results, hresults⟩,
      fun ⟨results, hresults⟩ ↦ ⟨_, results, hresults, rfl⟩⟩
  have hfails (found : List (AddressFamily × String)) :
      (∃ error, select found = .error error) ↔ ¬ ∃ answer, select found = .ok answer := by
    cases select found <;> simp
  rw [hfails, hsome]
  cases resolution with
  | none => simp [IsMalformed, candidates]
  | some found => simp [IsMalformed]

/-- The answer is no address exactly when nothing usable was found. -/
theorem select_eq_none_iff (resolution : Resolution) :
    select (resolution.getD []) = .ok none ↔ HasNoUsable resolution := by
  simp only [select_eq_ok_iff, Option.map_eq_none_iff, preferred_eq_none_iff]
  cases resolution with
  | none => simp [HasNoUsable, candidates]
  | some found => exact Iff.rfl

/-- A selected address is one that the lookup offers. -/
theorem offers_of_select {resolution : Resolution} {text : String}
    (h : select (resolution.getD []) = .ok (some text)) : Offers text resolution := by
  obtain ⟨results, hresults, hanswer⟩ := select_eq_ok_iff.1 h
  obtain ⟨address, haddress, rfl⟩ := Option.map_eq_some_iff.1 hanswer
  obtain ⟨hmem, husable⟩ := mem_of_preferred haddress
  cases resolution with
  | none =>
    cases hresults
    cases hmem
  | some found => exact ⟨results, hresults, address, hmem, husable, rfl⟩

/-- What a lookup offers spells an address. -/
theorem exists_spells_of_offers {resolution : Resolution} {text : String}
    (h : Offers text resolution) : ∃ address, Address.Spells address text := by
  cases resolution with
  | none => exact h.elim
  | some found =>
    obtain ⟨results, hresults, address, hmem, -, rfl⟩ := h
    obtain ⟨given, -, hgiven⟩ := exists_mem_of_forall₂ hresults.flip hmem
    exact ⟨address, Address.spells_text (Address.isReadable_of_spells hgiven)⟩

/-! ### One question -/

variable (given : Option String) (resolver : Resolver ρ)

/-- What was found out is the answer, and nothing is looked up. -/
theorem ask_settled {state : State ρ} {reply : Option String} (h : state.answer = some reply) :
    (source given resolver).ask state = (.ok reply, state) := by
  simp only [source, h]

/-- As long as nothing was found out, a question makes one lookup, and the reply that it leads to
stays. -/
theorem ask_unsettled {state : State ρ} (h : state.answer = none) :
    (source given resolver).ask state =
      let name := nameToResolve given resolver.hostName
      let looked := resolver.lookup name state.resolver
      let chosen := select (looked.1.getD [])
      (chosen.mapError .notAnAddress, ⟨chosen.toOption, state.asked ++ [name], looked.2⟩) := by
  simp only [source, h]
  cases select ((resolver.lookup (nameToResolve given resolver.hostName) state.resolver).1.getD
    []) <;> rfl

/-- A reply is kept as the answer. -/
theorem answer_of_ask {state : State ρ} {reply : Option String}
    (h : ((source given resolver).ask state).1 = .ok reply) :
    ((source given resolver).ask state).2.answer = some reply := by
  cases hanswer : state.answer with
  | some known =>
    rw [ask_settled given resolver hanswer] at h ⊢
    obtain rfl := Except.ok.inj h
    exact hanswer
  | none =>
    rw [ask_unsettled given resolver hanswer] at h ⊢
    dsimp only at h ⊢
    rw [mapError_eq_ok_iff] at h
    rw [h]
    rfl

/-- A known address is the text of one. -/
def KnowsAddress (state : State ρ) : Prop :=
  ∀ text, state.answer = some (some text) → ∃ address, Address.Spells address text

/-- A question leaves a source that knows an address or nothing. -/
theorem knowsAddress_ask {state : State ρ} (h : KnowsAddress state) :
    KnowsAddress ((source given resolver).ask state).2 := by
  intro text htext
  cases hanswer : state.answer with
  | some known =>
    rw [ask_settled given resolver hanswer] at htext
    exact h text htext
  | none =>
    rw [ask_unsettled given resolver hanswer] at htext
    exact exists_spells_of_offers (offers_of_select (toOption_eq_some_iff.1 htext))

/-- An address that the source gives is the text of one. -/
theorem exists_spells_of_answer {start : ρ} {question : Nat} {text : String}
    (h : (source given resolver).answer { resolver := start } question = .ok (some text)) :
    ∃ address, Address.Spells address text := by
  have hfresh : KnowsAddress (ρ := ρ) { resolver := start } := fun text htext ↦ by cases htext
  have hknows := (source given resolver).after_of_step { resolver := start }
    (fun state hstate ↦ knowsAddress_ask given resolver hstate) hfresh (question + 1)
  rw [AddressSource.after_succ] at hknows
  exact hknows text (answer_of_ask given resolver h)

/-! ### Questions in a row -/

/-- The state after questions that found nothing out: one lookup for each of them. -/
def unsettled (start : ρ) (questions : Nat) : State ρ :=
  let name := nameToResolve given resolver.hostName
  ⟨none, List.replicate questions name, resolver.after name start questions⟩

/-- What a question finds out when those before it found nothing out. -/
def foundOut (start : ρ) (question : Nat) : Except AddressError (Option String) :=
  select ((resolver.found (nameToResolve given resolver.hostName) start question).getD [])

variable {given resolver} {start : ρ}

/-- The question after so many failed ones is answered from the lookup made for it. -/
theorem ask_after_failures (questions : Nat) :
    (source given resolver).ask (unsettled given resolver start questions) =
      let chosen := foundOut given resolver start questions
      (chosen.mapError .notAnAddress,
        { unsettled given resolver start (questions + 1) with answer := chosen.toOption }) := by
  rw [ask_unsettled given resolver rfl]
  simp only [unsettled, foundOut, Resolver.found, Resolver.after_succ, List.replicate_succ']

/-- Questions that all failed leave nothing but their lookups. -/
theorem after_eq_unsettled {questions : Nat}
    (h : ∀ earlier < questions, ∃ error,
      (source given resolver).answer { resolver := start } earlier = .error error) :
    (source given resolver).after { resolver := start } questions =
      unsettled given resolver start questions := by
  induction questions with
  | zero => rfl
  | succ questions ih =>
    have hstate := ih fun earlier hearlier ↦ h earlier (Nat.lt_succ_of_lt hearlier)
    obtain ⟨error, herror⟩ := h questions (Nat.lt_succ_self questions)
    rw [AddressSource.answer, hstate, ask_after_failures] at herror
    obtain ⟨cause, hcause, -⟩ := mapError_eq_error_iff.1 herror
    rw [AddressSource.after_succ, hstate, ask_after_failures, hcause]
    rfl

/-- A question after failures only is put to the resolver. -/
theorem answer_after_failures {question : Nat}
    (h : ∀ earlier < question, ∃ error,
      (source given resolver).answer { resolver := start } earlier = .error error) :
    (source given resolver).answer { resolver := start } question =
        (foundOut given resolver start question).mapError .notAnAddress ∧
      (source given resolver).after { resolver := start } (question + 1) =
        { unsettled given resolver start (question + 1) with
          answer := (foundOut given resolver start question).toOption } := by
  rw [AddressSource.answer, AddressSource.after_succ, after_eq_unsettled h, ask_after_failures]
  exact ⟨rfl, rfl⟩

/-- The first reply stays, and nothing is looked up any more. -/
theorem after_eq_of_answer {state : State ρ} {first : Nat} {reply : Option String}
    (h : (source given resolver).answer state first = .ok reply) (more : Nat) :
    (source given resolver).answer state (first + more) = .ok reply ∧
      (source given resolver).after state (first + more + 1) =
        (source given resolver).after state (first + 1) := by
  induction more with
  | zero => exact ⟨h, rfl⟩
  | succ more ih =>
    obtain ⟨hreply, hstate⟩ := ih
    have hknown := answer_of_ask given resolver hreply
    rw [← AddressSource.after_succ, ← Nat.add_assoc] at *
    rw [AddressSource.answer, AddressSource.after_succ _ _ (first + more + 1),
      ask_settled given resolver hknown]
    exact ⟨rfl, hstate⟩

/-- The questions that fail come first. Each of them, and the first that gets a reply, makes one
lookup of the same name: it fails when the resolution is malformed, the reply is that there is no
address when none can be used, and else the text of a usable one. Every question after the first
reply gets this reply, and makes no lookup. -/
theorem source_settles (given : Option String) (resolver : Resolver ρ) (start : ρ) :
    let source := source given resolver
    let name := nameToResolve given resolver.hostName
    let found := resolver.found name start
    let state := source.after { resolver := start }
    let answer := source.answer { resolver := start }
    (∀ question later, question ≤ later → (∃ error, answer later = .error error) →
      ∃ error, answer question = .error error) ∧
    (∀ question, (∀ earlier < question, ∃ error, answer earlier = .error error) →
      ((state question).asked = List.replicate question name ∧
        (state (question + 1)).asked = List.replicate (question + 1) name ∧
        (state (question + 1)).resolver = resolver.after name start (question + 1)) ∧
      ((∃ error, answer question = .error error) ↔ IsMalformed (found question)) ∧
      (answer question = .ok none ↔ HasNoUsable (found question)) ∧
      ∀ text, answer question = .ok (some text) → Offers text (found question)) ∧
    ∀ first reply, answer first = .ok reply → ∀ later, first ≤ later →
      answer later = .ok reply ∧ state (later + 1) = state (first + 1) := by
  intro source name found state answer
  have hstays (first reply) (hreply : answer first = .ok reply) (later) (hlater : first ≤ later) :
      answer later = .ok reply ∧ state (later + 1) = state (first + 1) := by
    obtain ⟨more, rfl⟩ := Nat.exists_eq_add_of_le hlater
    exact after_eq_of_answer hreply more
  refine ⟨fun question later hle hfails ↦ ?first, fun question hfailed ↦ ?lookup, hstays⟩
  case first =>
    cases hanswer : answer question with
    | error error => exact ⟨error, rfl⟩
    | ok reply =>
      obtain ⟨error, herror⟩ := hfails
      exact absurd (herror.symm.trans (hstays question reply hanswer later hle).1) (by simp)
  case lookup =>
    obtain ⟨hanswer, hnext⟩ := answer_after_failures hfailed
    have hstate : state question = unsettled given resolver start question :=
      after_eq_unsettled hfailed
    refine ⟨⟨?_, ?_, ?_⟩, ?_, ?_, fun text htext ↦ ?_⟩
    · rw [hstate]
      rfl
    · exact congrArg State.asked hnext
    · exact congrArg State.resolver hnext
    · rw [← select_eq_error_iff, show answer question = _ from hanswer]
      simp only [mapError_eq_error_iff]
      exact ⟨fun ⟨_, cause, hcause, _⟩ ↦ ⟨cause, hcause⟩,
        fun ⟨cause, hcause⟩ ↦ ⟨_, cause, hcause, rfl⟩⟩
    · rw [← select_eq_none_iff, show answer question = _ from hanswer, mapError_eq_ok_iff]
      rfl
    · rw [show answer question = _ from hanswer, mapError_eq_ok_iff] at htext
      exact offers_of_select htext

/-- A text that is no address makes the first question fail. The second finds an address of the host
itself only, so that the usable one which is there at the third is not looked up any more. -/
theorem source_settles_second_time :
    let resolutions := [some [(.inet, "nowhere")], some [(.inet, "127.0.0.1")],
      some [(.inet, "192.0.2.7")]]
    let source := source none (Resolver.scripted "host")
    let fresh : State (List Resolution) := { resolver := resolutions }
    (∃ error, source.answer fresh 0 = .error error) ∧ source.answer fresh 1 = .ok none ∧
      source.answer fresh 2 = .ok none ∧ (source.after fresh 3).asked = ["host", "host"] := by
  intro resolutions source fresh
  obtain ⟨-, hlookup, hstays⟩ := source_settles none (Resolver.scripted "host") resolutions
  have hnowhere : IsMalformed (some [(.inet, "nowhere")]) := by
    refine ⟨"nowhere", by decide, fun address hspells ↦ ?_⟩
    have hnone : Address.parse? "nowhere" = none := by decide +kernel
    rw [← Address.parse?_eq_some_iff, hnone] at hspells
    cases hspells
  have hloopback : HasNoUsable (some [(.inet, "127.0.0.1")]) :=
    ⟨[.v4 ⟨127, 0, 0, 1⟩], .cons (.v4 ⟨127, 0, 0, 1⟩) .nil, by decide⟩
  have hfirst := (hlookup 0 (by simp)).2.1.2 hnowhere
  have hearlier : ∀ earlier < 1, ∃ error, source.answer fresh earlier = .error error := by
    intro earlier hlt
    obtain rfl := Nat.lt_one_iff.1 hlt
    exact hfirst
  obtain ⟨⟨-, hasked, -⟩, -, hnone, -⟩ := hlookup 1 hearlier
  have hsecond := hnone.2 hloopback
  obtain ⟨hthird, hstate⟩ := hstays 1 none hsecond 2 (by decide)
  exact ⟨hfirst, hsecond, hthird, (congrArg State.asked hstate).trans hasked⟩

end LocalAddress
end SpanBridge
