import SpanBridge.AddressSource

/-!
# The address of this host

A host name resolves to addresses of several families. `LocalAddress.select` picks one that other
hosts can use, of version four if there is one. `LocalAddress.source` asks a `Resolver` until an
answer has been found and gives that answer from then on; that the name does not resolve, or to no
usable address, is an answer too.
-/

set_option autoImplicit false
set_option relaxedAutoImplicit false

namespace SpanBridge

/-- The families of addresses that a name may resolve to. -/
inductive AddressFamily where
  | inet
  | inet6
  | other
  deriving DecidableEq, Repr

/-- Whether addresses of a family are IP addresses. -/
def AddressFamily.isIp : AddressFamily → Bool
  | .inet | .inet6 => true
  | .other => false

/-- What a name resolves to: addresses in the order found, or nothing when it does not resolve. -/
abbrev Resolution := Option (List (AddressFamily × String))

/-- Something that knows the name of this host and resolves names. -/
structure Resolver (ρ : Type) where
  hostName : String
  /-- What a name resolves to, and the state after it. -/
  lookup : String → ρ → Resolution × ρ

/-- A resolver with answers given beforehand. The last of them is repeated; without any, no name
resolves. -/
def Resolver.scripted (hostName : String) : Resolver (List Resolution) where
  hostName
  lookup _
    | [] => (none, [])
    | [answer] => (answer, [answer])
    | answer :: answers => (answer, answers)

namespace LocalAddress

/-- The text of an address without the zone that a resolver may append. -/
def withoutZone (text : String) : String := String.ofList (text.toList.takeWhile (· ≠ '%'))

/-- The IP addresses of a resolution. A text that is no address is refused. -/
def addresses (found : List (AddressFamily × String)) : Except AddressError (List Address) :=
  (found.filter (·.1.isIp)).mapM fun entry ↦ Address.parse (withoutZone entry.2)

/-- The addresses to choose from, and a further one unless it is among them or cannot be used by
other hosts. -/
def keep (kept : List Address) (address : Address) : List Address :=
  if address.isUsable && !kept.contains address then kept ++ [address] else kept

/-- The usable addresses, each where it was found first. -/
def usable (found : List Address) : List Address := found.foldl keep []

/-- Whether an address may stand before another one when they are arranged by version. -/
def isBefore (first second : Address) : Bool := first.version ≤ second.version

/-- The first of the usable addresses once they are arranged by version. -/
def preferred (found : List Address) : Option Address := ((usable found).mergeSort isBefore).head?

/-- The canonical text of the address to use. -/
def select (found : List (AddressFamily × String)) : Except AddressError (Option String) := do
  return (preferred (← addresses found)).map Address.text

/-- What is known so far: the answer once there is one, the names looked up in order, and the state
of the resolver. -/
structure State (ρ : Type) where
  answer : Option (Option String) := none
  asked : List String := []
  resolver : ρ

/-- The name to look up: the given one, unless it is missing or empty. -/
def nameToResolve (given : Option String) (hostName : String) : String :=
  match given with
  | none | some "" => hostName
  | some name => name

/-- The local address by resolving a name, once it has been found out. -/
def source {ρ : Type} (given : Option String) (resolver : Resolver ρ) :
    AddressSource (State ρ) where
  ask state :=
    match state.answer with
    | some answer => (.ok answer, state)
    | none =>
      let name := nameToResolve given resolver.hostName
      let (resolution, next) := resolver.lookup name state.resolver
      let looked := { state with asked := state.asked ++ [name], resolver := next }
      match select (resolution.getD []) with
      | .error error => (.error (.notAnAddress error), looked)
      | .ok answer => (.ok answer, { looked with answer := some answer })

end LocalAddress
end SpanBridge
