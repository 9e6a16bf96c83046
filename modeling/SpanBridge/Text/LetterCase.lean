import SpanBridge.Text.LetterCase.Tables

/-!
# Small and capital letters

`toSmall` and `toCapital` rewrite a text in small and in capital letters by the full mappings of
Unicode: a capital form may take several characters, and the small form of a capital sigma depends
on where the sigma stands.
-/

set_option autoImplicit false
set_option relaxedAutoImplicit false

namespace SpanBridge.Text.LetterCase

/-- Applies the run that holds the code point, if one does. -/
def shift? (runs : List ShiftRun) (code : Nat) : Option Nat :=
  (runs.find? fun (first, last, stride, _) ↦
    first ≤ code && code ≤ last && (code - first) % stride = 0).map
      fun (_, _, _, distance) ↦ (code + distance).toNat

def capitalOf (c : Char) : List Char :=
  match capitalExpansions.lookup c.toNat with
  | some codes => codes.map Char.ofNat
  | none => [((shift? capitalRuns c.toNat).map Char.ofNat).getD c]

def toCapital (text : String) : String :=
  String.ofList (text.toList.flatMap capitalOf)

/-- The small form of a character, apart from its place in a word. The dotted capital I keeps its
dot as a combining mark. -/
def smallOf (c : Char) : List Char :=
  if c = '\u0130' then ['i', '\u0307']
  else [((shift? smallRuns c.toNat).map Char.ofNat).getD c]

/-- Whether the nearest character that counts has a case. -/
def meetsCased (chars : List Char) : Bool :=
  match chars.dropWhile ignorableRanges.contain with
  | [] => false
  | c :: _ => casedRanges.contain c

/-- The small forms of the remaining characters, given those already passed in reverse. A capital
sigma after a letter and before none is the one that ends a word. -/
def smallFrom (passed : List Char) : List Char → List Char
  | [] => []
  | c :: rest =>
    let form :=
      if c = '\u03a3' then
        if meetsCased passed && !meetsCased rest then ['\u03c2'] else ['\u03c3']
      else smallOf c
    form ++ smallFrom (c :: passed) rest

def toSmall (text : String) : String :=
  String.ofList (smallFrom [] text.toList)

end SpanBridge.Text.LetterCase
