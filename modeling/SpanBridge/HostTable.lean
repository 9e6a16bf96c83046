import SpanBridge.LocalAddress
import SpanBridge.Text.Blank

/-!
# Host tables

A host table gives addresses to names, one address and its names on each line; what follows a number
sign is a comment. `HostTable.resolve` finds all addresses of a name in the order of the table.
-/

set_option autoImplicit false
set_option relaxedAutoImplicit false

namespace SpanBridge

/-- A line of a host table. -/
structure HostLine where
  address : String
  names : List String
  deriving DecidableEq, Repr

/-- Addresses and their names. -/
structure HostTable where
  lines : List HostLine
  deriving DecidableEq, Repr

namespace HostTable

/-- The words of a line without its comment. -/
def words (line : List Char) : List String :=
  ((line.takeWhile (· ≠ '#')).splitOnP Text.isBlank).filterMap fun word ↦
    if word.isEmpty then none else some (String.ofList word)

/-- Reads a table. A line without an address says nothing. -/
def parse (text : String) : HostTable where
  lines := (text.toList.splitOn '\n').filterMap fun line ↦
    match words line with
    | [] => none
    | address :: names => some ⟨address, names⟩

/-- The family of the addresses that are written like a text. -/
def familyOf (text : String) : AddressFamily :=
  match Address.parse? text with
  | some address => if address.isV4 then .inet else .inet6
  | none => .other

def resolve (table : HostTable) (name : String) : Resolution :=
  match table.lines.filter (·.names.contains name) with
  | [] => none
  | found => some (found.map fun line ↦ (familyOf line.address, line.address))

end HostTable
end SpanBridge
