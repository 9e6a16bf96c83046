import SpanBridge.Json.Basic
import SpanBridge.Number.Shortest
import SpanBridge.Text.Quoted

/-!
# Writing JSON

`Json.print` writes a document in ASCII: every other character of a string is escaped. A `Layout`
says what stands between items and between a name and its value, and whether each item has a line of
its own.
-/

set_option autoImplicit false
set_option relaxedAutoImplicit false

namespace SpanBridge.Json

/-- How a document is laid out. -/
structure Layout where
  /-- Stands between two items. -/
  itemSeparator : List Char
  /-- Stands between a name and its value. -/
  nameSeparator : List Char
  /-- Spaces for each level of nesting; without it there are no line breaks. -/
  indent : Option Nat
  deriving DecidableEq, Repr

namespace Layout

def compact : Layout := ⟨[','], [':'], none⟩

/-- On one line, with a space after each separator. -/
def spaced : Layout := ⟨[',', ' '], [':', ' '], none⟩

/-- Every item on a line of its own. -/
def indented (spaces : Nat) : Layout := ⟨[','], [':', ' '], some spaces⟩

/-- The line break before an item at a level of nesting. -/
def lineBreak (layout : Layout) (level : Nat) : List Char :=
  match layout.indent with
  | none => []
  | some spaces => '\n' :: List.replicate (spaces * level) ' '

end Layout

/-- A unit of sixteen bits as an escape. -/
def escapeUnit (unit : Nat) : List Char := '\\' :: 'u' :: Text.hexDigits 4 unit

def escapeChar (c : Char) : List Char :=
  if c = '"' || c = '\\' then ['\\', c]
  else if c = '\n' then ['\\', 'n']
  else if c = '\r' then ['\\', 'r']
  else if c = '\t' then ['\\', 't']
  else if c = '\x0c' then ['\\', 'f']
  else if c = '\x08' then ['\\', 'b']
  else if 0x20 ≤ c.toNat && c.toNat < 0x7f then [c]
  else if c.toNat < 0x10000 then escapeUnit c.toNat
  else
    escapeUnit (0xd800 + (c.toNat - 0x10000) / 0x400)
      ++ escapeUnit (0xdc00 + (c.toNat - 0x10000) % 0x400)

def writeString (text : String) : List Char :=
  '"' :: text.toList.flatMap escapeChar ++ ['"']

/-- Items with separators, each after the line break of its level. -/
def joinItems (layout : Layout) (level : Nat) : List (List Char) → List Char
  | [] => []
  | [item] => layout.lineBreak level ++ item
  | item :: items =>
    layout.lineBreak level ++ item ++ layout.itemSeparator ++ joinItems layout level items

/-- Items between brackets. Without items the brackets stand together. -/
def bracketed (layout : Layout) (level : Nat) (opening closing : Char) (items : List (List Char)) :
    List Char :=
  if items.isEmpty then [opening, closing]
  else opening :: joinItems layout (level + 1) items ++ layout.lineBreak level ++ [closing]

mutual

def write (layout : Layout) (level : Nat) : Json → List Char
  | .null => ['n', 'u', 'l', 'l']
  | .bool truth => if truth then ['t', 'r', 'u', 'e'] else ['f', 'a', 'l', 's', 'e']
  | .int number => (toString number).toList
  | .double number => (number.text DoubleFormat.plain).toList
  | .str text => writeString text
  | .arr items => bracketed layout level '[' ']' (writeItems layout (level + 1) items)
  | .obj members => bracketed layout level '\x7b' '\x7d' (writeMembers layout (level + 1) members)

def writeItems (layout : Layout) (level : Nat) : List Json → List (List Char)
  | [] => []
  | item :: items => write layout level item :: writeItems layout level items

def writeMembers (layout : Layout) (level : Nat) : List (String × Json) → List (List Char)
  | [] => []
  | (name, value) :: members =>
    (writeString name ++ layout.nameSeparator ++ write layout level value)
      :: writeMembers layout level members

end

/-- The text of a document. -/
def print (layout : Layout) (document : Json) : String := String.ofList (write layout 0 document)

end SpanBridge.Json
