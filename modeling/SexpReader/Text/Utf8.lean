/-
# Decoding UTF-8

Strict decoding, one byte after another. Between bytes the decoder knows how many bytes
the character at hand still needs and which range the next one must be in; that range is
narrower after some first bytes, which shuts out overlong forms, surrogates and code
points that are too large. The first byte that cannot go on ends the decoding, and the
fault names the bytes that had been accepted for the unfinished character.
-/

import SexpReader.Text.Hex

namespace SexpReader.Text.Utf8

/-- Why bytes are no character. -/
inductive Cause
  | invalidStart
  | invalidContinuation
  | unexpectedEnd
  deriving DecidableEq, Repr

/-- The wording of a cause. -/
def Cause.message : Cause → String
  | invalidStart => "invalid start byte"
  | invalidContinuation => "invalid continuation byte"
  | unexpectedEnd => "unexpected end of data"

/-- The first place where bytes are not UTF-8: the offset in bytes, the bytes at fault, of
which there is always at least one, and the cause. -/
structure Fault where
  offset : Nat
  first : UInt8
  more : List UInt8
  cause : Cause
  deriving DecidableEq, Repr

/-- The message of a fault. A single byte is shown, several are only located. -/
def Fault.message (fault : Fault) : String :=
  let place :=
    if fault.more.isEmpty then
      "byte 0x" ++ String.ofList (hexDigits 2 fault.first.toNat) ++ " in position " ++
        toString fault.offset
    else
      "bytes in position " ++ toString fault.offset ++ "-" ++
        toString (fault.offset + fault.more.length)
  "'utf-8' codec can't decode " ++ place ++ ": " ++ fault.cause.message

/-- A character that is not complete: the offset and value of its first byte, the bytes
accepted after that, the bits read so far, the number of bytes still needed after the next
one, and the bounds of the next byte. -/
structure Pending where
  offset : Nat
  first : UInt8
  accepted : List UInt8
  bits : Nat
  owed : Nat
  low : UInt8
  high : UInt8
  deriving DecidableEq, Repr

/-- The state between two bytes: the text so far, the number of bytes read, and the
character that is not complete, if any. -/
structure Decoder where
  text : String
  offset : Nat
  pending : Option Pending
  deriving DecidableEq, Repr

/-- The decoder before the first byte. -/
def Decoder.initial : Decoder := ⟨"", 0, none⟩

/-- The character that a first byte above the ASCII range begins, if it can begin one. -/
def begin? (offset : Nat) (byte : UInt8) : Option Pending :=
  let lead (bits owed : Nat) (low high : UInt8) : Option Pending :=
    some ⟨offset, byte, [], bits, owed, low, high⟩
  if 0xc2 ≤ byte ∧ byte ≤ 0xdf then lead (byte.toNat - 0xc0) 0 0x80 0xbf
  else if byte = 0xe0 then lead 0 1 0xa0 0xbf
  else if byte = 0xed then lead 0xd 1 0x80 0x9f
  else if 0xe1 ≤ byte ∧ byte ≤ 0xef then lead (byte.toNat - 0xe0) 1 0x80 0xbf
  else if byte = 0xf0 then lead 0 2 0x90 0xbf
  else if 0xf1 ≤ byte ∧ byte ≤ 0xf3 then lead (byte.toNat - 0xf0) 2 0x80 0xbf
  else if byte = 0xf4 then lead 4 2 0x80 0x8f
  else none

/-- The fault of a character that cannot be completed. -/
def Pending.fault (pending : Pending) (cause : Cause) : Fault :=
  ⟨pending.offset, pending.first, pending.accepted, cause⟩

/-- Read one byte. -/
def Decoder.feed (decoder : Decoder) (byte : UInt8) : Except Fault Decoder :=
  let offset := decoder.offset + 1
  match decoder.pending with
  | none =>
      if byte < 0x80 then .ok ⟨decoder.text.push (Char.ofNat byte.toNat), offset, none⟩
      else
        match begin? decoder.offset byte with
        | some pending => .ok ⟨decoder.text, offset, some pending⟩
        | none => .error ⟨decoder.offset, byte, [], .invalidStart⟩
  | some pending =>
      if pending.low ≤ byte ∧ byte ≤ pending.high then
        let bits := pending.bits * 0x40 + byte.toNat % 0x40
        match pending.owed with
        | 0 => .ok ⟨decoder.text.push (Char.ofNat bits), offset, none⟩
        | owed + 1 =>
            .ok ⟨decoder.text, offset, some { pending with
              accepted := pending.accepted ++ [byte], bits, owed, low := 0x80, high := 0xbf }⟩
      else .error (pending.fault .invalidContinuation)

/-- The text of bytes that end here. -/
def Decoder.finish (decoder : Decoder) : Except Fault String :=
  match decoder.pending with
  | none => .ok decoder.text
  | some pending => .error (pending.fault .unexpectedEnd)

/-- The text that bytes encode, or the first place where they encode none. -/
def decode (bytes : List UInt8) : Except Fault String := do
  (← bytes.foldlM Decoder.feed Decoder.initial).finish

/-- The bytes of a text. -/
def encode (text : String) : List UInt8 :=
  text.toUTF8.data.toList

end SexpReader.Text.Utf8
