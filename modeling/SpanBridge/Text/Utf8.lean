import SpanBridge.Text.Quoted

/-!
# Strict UTF-8

`Utf8.decode` reads bytes as UTF-8 and accepts the shortest form of each scalar value only. What it
refuses it describes by the first bad stretch of bytes: where it starts, how long it is, and whether
the byte cannot start a character, a later byte cannot continue it, or the bytes end too early.
-/

set_option autoImplicit false
set_option relaxedAutoImplicit false

namespace SpanBridge.Text.Utf8

/-- Why a stretch of bytes is not a character. -/
inductive Fault where
  | badStart
  | badContinuation
  | cutShort
  deriving DecidableEq, Repr

/-- The first stretch of bytes that is no character. -/
structure DecodeError where
  fault : Fault
  /-- Offset of the stretch. -/
  offset : Nat
  /-- Its length, at least one. -/
  length : Nat
  /-- Its first byte. -/
  byte : UInt8
  deriving DecidableEq, Repr

def Fault.message : Fault → String
  | .badStart => "invalid start byte"
  | .badContinuation => "invalid continuation byte"
  | .cutShort => "unexpected end of data"

/-- One bad byte is shown, several are counted. -/
def DecodeError.message (e : DecodeError) : String :=
  let what :=
    if e.length = 1 then
      "byte 0x" ++ String.ofList (hexDigits 2 e.byte.toNat) ++ " in position " ++ toString e.offset
    else "bytes in position " ++ toString e.offset ++ "-" ++ toString (e.offset + e.length - 1)
  "'utf-8' codec can't decode " ++ what ++ ": " ++ e.fault.message

/-- The bytes that may follow a first byte. The second byte of four of them is bounded so that no
longer form, surrogate or value past the last code point is spelled. -/
structure Lead where
  /-- Number of bytes after the first. -/
  following : Nat
  /-- Bits that the first byte contributes. -/
  bits : Nat
  /-- Least second byte. -/
  least : Nat
  /-- Greatest second byte. -/
  greatest : Nat
  deriving DecidableEq, Repr

/-- What a first byte of several announces. -/
def lead? (byte : Nat) : Option Lead :=
  if 0xc2 ≤ byte && byte ≤ 0xdf then some ⟨1, byte - 0xc0, 0x80, 0xbf⟩
  else if byte = 0xe0 then some ⟨2, 0, 0xa0, 0xbf⟩
  else if byte = 0xed then some ⟨2, 0xd, 0x80, 0x9f⟩
  else if 0xe0 ≤ byte && byte ≤ 0xef then some ⟨2, byte - 0xe0, 0x80, 0xbf⟩
  else if byte = 0xf0 then some ⟨3, 0, 0x90, 0xbf⟩
  else if byte = 0xf4 then some ⟨3, 4, 0x80, 0x8f⟩
  else if 0xf0 ≤ byte && byte ≤ 0xf3 then some ⟨3, byte - 0xf0, 0x80, 0xbf⟩
  else none

/-- Reads the given number of continuation bytes, the first of them between the bounds. A fault
comes with the number of good bytes before it. -/
def continuation (least greatest : Nat) : (count : Nat) → (value : Nat) → List UInt8 →
    Except (Fault × Nat) (Nat × List UInt8)
  | 0, value, bytes => .ok (value, bytes)
  | _ + 1, _, [] => .error (.cutShort, 0)
  | count + 1, value, byte :: bytes =>
    if least ≤ byte.toNat && byte.toNat ≤ greatest then
      (continuation 0x80 0xbf count (value * 64 + (byte.toNat - 0x80)) bytes).mapError
        fun (fault, good) ↦ (fault, good + 1)
    else .error (.badContinuation, 0)

/-- The characters of the bytes from an offset on. The fuel is the number of bytes left. -/
def decodeFrom : (fuel : Nat) → (offset : Nat) → List UInt8 → Except DecodeError (List Char)
  | _, _, [] => .ok []
  | 0, _, _ :: _ => .ok []
  | fuel + 1, offset, byte :: bytes =>
    if byte < 0x80 then (Char.ofNat byte.toNat :: ·) <$> decodeFrom fuel (offset + 1) bytes
    else
      match lead? byte.toNat with
      | none => .error ⟨.badStart, offset, 1, byte⟩
      | some lead =>
        match continuation lead.least lead.greatest lead.following lead.bits bytes with
        | .error (fault, good) => .error ⟨fault, offset, good + 1, byte⟩
        | .ok (value, rest) =>
          (Char.ofNat value :: ·) <$> decodeFrom fuel (offset + 1 + lead.following) rest

/-- The text that the bytes spell. -/
def decode (bytes : List UInt8) : Except DecodeError String :=
  String.ofList <$> decodeFrom bytes.length 0 bytes

end SpanBridge.Text.Utf8
