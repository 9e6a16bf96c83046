import SpanBridge.Entries
import SpanBridge.Value.Basic

/-!
# Mappings

A `Mapping` holds attributes or tags: keys with values, in the order in which the keys first came
and no key twice. Keys are the same in the sense of `Value.Same`.
-/

set_option autoImplicit false
set_option relaxedAutoImplicit false

namespace SpanBridge

/-- Keys with values, in insertion order. -/
structure Mapping where
  entries : List (Value × Value)
  distinct : Entries.Distinct Value.Same entries
  deriving DecidableEq

namespace Mapping

def empty : Mapping := ⟨[], .nil⟩

instance : Inhabited Mapping := ⟨empty⟩

/-- Gives a key a value. A key already there keeps its place. -/
def insert (mapping : Mapping) (key value : Value) : Mapping :=
  ⟨Entries.insert Value.Same key value mapping.entries, mapping.distinct.insert⟩

/-- Gives a key of a document a value. Keys of one document are the same when they are alike. -/
def insertAlike (mapping : Mapping) (key value : Value) : Mapping :=
  ⟨Entries.insert Value.Alike key value mapping.entries,
    mapping.distinct.insert_of_imp Value.Same.alike⟩

/-- Gives the key a value when there is one. -/
def insertIf (mapping : Mapping) (condition : Bool) (key value : Value) : Mapping :=
  if condition then mapping.insert key value else mapping

def find? (mapping : Mapping) (key : Value) : Option Value :=
  Entries.find? Value.Same key mapping.entries

def contains (mapping : Mapping) (key : Value) : Bool := (mapping.find? key).isSome

def size (mapping : Mapping) : Nat := mapping.entries.length

def isEmpty (mapping : Mapping) : Bool := mapping.entries.isEmpty

def keys (mapping : Mapping) : List Value := mapping.entries.map (·.1)

/-- A mapping given entry by entry, a later value replacing an earlier one. -/
def ofEntries (entries : List (Value × Value)) : Mapping :=
  ⟨Entries.ofList Value.Same entries, .ofList entries⟩

end Mapping
end SpanBridge
