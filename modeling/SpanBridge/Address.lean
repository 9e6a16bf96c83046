import SpanBridge.Text.Quoted

/-!
# IP addresses

`Address.parse?` reads the text of an IPv4 or IPv6 address, `Address.text` writes the one canonical
text of an address: four decimal octets, or hexadecimal groups with the first longest run of zero
groups left out. An IPv6 address may carry a zone, which is kept as it is.
-/

set_option autoImplicit false
set_option relaxedAutoImplicit false

namespace SpanBridge

/-- An IPv4 address by its octets. -/
structure Ipv4 where
  first : UInt8
  second : UInt8
  third : UInt8
  fourth : UInt8
  deriving DecidableEq, Repr

/-- An IPv6 address by its eight groups, perhaps within a zone. -/
structure Ipv6 where
  groups : List UInt16
  zone : Option String
  eight : groups.length = 8
  deriving DecidableEq, Repr

/-- An address of either version. -/
inductive Address where
  | v4 (address : Ipv4)
  | v6 (address : Ipv6)
  deriving DecidableEq, Repr

/-! ### IPv4 -/

namespace Ipv4

/-- Reads an octet: one to three digits without a superfluous zero, up to 255. -/
def octet? (chars : List Char) : Option UInt8 :=
  if chars.isEmpty || 3 < chars.length || !chars.all Char.isDigit then none
  else if chars.length ≠ 1 && chars.head? = some '0' then none
  else
    let value := chars.foldl (fun value c ↦ 10 * value + (c.toNat - '0'.toNat)) 0
    if value ≤ 255 then some value.toUInt8 else none

/-- Reads four octets with points between them. -/
def parse? (chars : List Char) : Option Ipv4 :=
  match chars.splitOn '.' with
  | [a, b, c, d] => return ⟨← octet? a, ← octet? b, ← octet? c, ← octet? d⟩
  | _ => none

/-- The decimal octets with points between them. -/
def text (address : Ipv4) : String :=
  String.intercalate "."
    ([address.first, address.second, address.third, address.fourth].map fun octet ↦
      toString octet.toNat)

/-- Whether an address leads back to its own host. -/
def isLoopback (address : Ipv4) : Bool := address.first = 127

/-- Whether an address stands for no address. -/
def isUnspecified (address : Ipv4) : Bool := address = ⟨0, 0, 0, 0⟩

/-- Whether an address is valid on one link only. -/
def isLinkLocal (address : Ipv4) : Bool := address.first = 169 && address.second = 254

end Ipv4

/-! ### IPv6 -/

namespace Ipv6

def hexDigit? (c : Char) : Option Nat :=
  if '0' ≤ c && c ≤ '9' then some (c.toNat - '0'.toNat)
  else if 'a' ≤ c && c ≤ 'f' then some (c.toNat - 'a'.toNat + 10)
  else if 'A' ≤ c && c ≤ 'F' then some (c.toNat - 'A'.toNat + 10)
  else none

/-- Reads a group of one to four hexadecimal digits. -/
def group? (chars : List Char) : Option UInt16 := do
  guard (!chars.isEmpty && chars.length ≤ 4)
  let digits ← chars.mapM hexDigit?
  return (digits.foldl (fun value digit ↦ 16 * value + digit) 0).toUInt16

/-- Splits the zone off. A zone is not empty and holds no second mark. -/
def splitZone? (chars : List Char) : Option (List Char × Option String) :=
  match chars.dropWhile (· ≠ '%') with
  | [] => some (chars, none)
  | _ :: zone =>
    if zone.isEmpty || zone.contains '%' then none
    else some (chars.takeWhile (· ≠ '%'), some (String.ofList zone))

/-- The parts between colons, of which there are three at least. A last part with points is an IPv4
address and counts as two groups. -/
def parts? (chars : List Char) : Option (List (List Char)) := do
  let parts := chars.splitOn ':'
  guard (3 ≤ parts.length)
  let last ← parts.getLast?
  if last.contains '.' then
    let address ← Ipv4.parse? last
    return parts.dropLast ++
      [ Text.hexDigits 2 address.first.toNat ++ Text.hexDigits 2 address.second.toNat,
        Text.hexDigits 2 address.third.toNat ++ Text.hexDigits 2 address.fourth.toNat ]
  else return parts

/-- The place of the gap: the one empty part that is neither first nor last. Two are refused. -/
def gap? (parts : List (List Char)) : Option (Option Nat) :=
  match (List.range parts.length).filter fun place ↦
      0 < place && place + 1 < parts.length && (parts[place]?.getD []).isEmpty with
  | [] => some none
  | [place] => some (some place)
  | _ => none

/-- The parts on one side of the gap. The side is empty when its outermost part is, which then must
be the only one. -/
def besideGap? (side : List (List Char)) (outermost : Option (List Char)) :
    Option (List (List Char)) :=
  if outermost = some [] then (if side.length = 1 then some [] else none) else some side

/-- Reads the groups. A gap stands for one zero group at least. -/
def groups? (parts : List (List Char)) : Option (List UInt16) := do
  guard (parts.length ≤ 9)
  match ← gap? parts with
  | none => parts.mapM group?
  | some place =>
    let high ← besideGap? (parts.take place) parts.head?
    let low ← besideGap? (parts.drop (place + 1)) parts.getLast?
    guard (high.length + low.length < 8)
    let high ← high.mapM group?
    let low ← low.mapM group?
    return high ++ List.replicate (8 - (high.length + low.length)) 0 ++ low

/-- Reads an IPv6 address. -/
def parse? (chars : List Char) : Option Ipv6 := do
  let (body, zone) ← splitZone? chars
  let groups ← groups? (← parts? body)
  if eight : groups.length = 8 then return ⟨groups, zone, eight⟩ else none

/-- The length of the run of zero groups at the start. -/
def zeroRun (groups : List UInt16) : Nat := (groups.takeWhile (· = 0)).length

/-- The start and length of the first longest run of zero groups. -/
def longestZeroRun (groups : List UInt16) : Nat × Nat :=
  (List.range groups.length).foldl (fun best start ↦
    let length := zeroRun (groups.drop start)
    if best.2 < length then (start, length) else best) (0, 0)

/-- Groups in hexadecimal with colons between them. -/
def groupsText (groups : List UInt16) : String :=
  String.intercalate ":" (groups.map fun group ↦ String.ofList (Nat.toDigits 16 group.toNat))

/-- The groups, with a double colon for the first longest run of two zero groups or more. -/
def text (address : Ipv6) : String :=
  let (start, length) := longestZeroRun address.groups
  let body :=
    if 1 < length then
      groupsText (address.groups.take start) ++ "::"
        ++ groupsText (address.groups.drop (start + length))
    else groupsText address.groups
  body ++ (address.zone.map ("%" ++ ·)).getD ""

/-- Whether an address leads back to its own host. -/
def isLoopback (address : Ipv6) : Bool := address.groups = [0, 0, 0, 0, 0, 0, 0, 1]

/-- Whether an address stands for no address. -/
def isUnspecified (address : Ipv6) : Bool := address.groups = List.replicate 8 0

/-- Whether an address is valid on one link only. -/
def isLinkLocal (address : Ipv6) : Bool :=
  match address.groups with
  | first :: _ => first &&& 0xffc0 = 0xfe80
  | [] => false

end Ipv6

/-! ### Both versions -/

/-- A text that is no address. -/
structure AddressError where
  text : String
  deriving DecidableEq, Repr

def AddressError.message (e : AddressError) : String :=
  Text.quoted e.text ++ " does not appear to be an IPv4 or IPv6 address"

namespace Address

/-- Reads an address of either version. -/
def parse? (text : String) : Option Address :=
  if text.toList.contains '/' then none
  else ((Ipv4.parse? text.toList).map v4).or ((Ipv6.parse? text.toList).map v6)

/-- Reads an address, or says that the text is none. -/
def parse (text : String) : Except AddressError Address :=
  match parse? text with
  | some address => .ok address
  | none => .error ⟨text⟩

def text : Address → String
  | .v4 address => address.text
  | .v6 address => address.text

/-- Whether an address leads back to its own host. -/
def isLoopback : Address → Bool
  | .v4 address => address.isLoopback
  | .v6 address => address.isLoopback

/-- Whether an address stands for no address. -/
def isUnspecified : Address → Bool
  | .v4 address => address.isUnspecified
  | .v6 address => address.isUnspecified

/-- Whether an address is valid on one link only. -/
def isLinkLocal : Address → Bool
  | .v4 address => address.isLinkLocal
  | .v6 address => address.isLinkLocal

/-- Whether an address is of version four. -/
def isV4 : Address → Bool
  | .v4 _ => true
  | .v6 _ => false

def version : Address → Nat
  | .v4 _ => 4
  | .v6 _ => 6

/-- Whether other hosts can use an address. -/
def isUsable (address : Address) : Bool :=
  !(address.isLoopback || address.isUnspecified || address.isLinkLocal)

end Address
end SpanBridge
