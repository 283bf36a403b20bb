/-
# JSON strings

The JSON form of a text in visible ASCII: the quote, the backslash and the common controls
have short escapes, and every other character outside the visible ASCII range is written
as its UTF-16 units.
-/

import SexpReader.Text.Hex

namespace SexpReader.Text

/-- One UTF-16 unit as an escape. -/
def escapeUnit (unit : Nat) : List Char :=
  '\\' :: 'u' :: hexDigits 4 unit

/-- The UTF-16 units of a character: itself, or two surrogates beyond the first plane. -/
def units16 (c : Char) : List Nat :=
  if c.toNat < 0x10000 then [c.toNat]
  else
    let rest := c.toNat - 0x10000
    [0xd800 + rest / 0x400, 0xdc00 + rest % 0x400]

/-- One character inside a JSON string. -/
def jsonChar (c : Char) : List Char :=
  if c = '"' then ['\\', '"']
  else if c = '\\' then ['\\', '\\']
  else if c = '\n' then ['\\', 'n']
  else if c = '\r' then ['\\', 'r']
  else if c = '\t' then ['\\', 't']
  else if c = '\x08' then ['\\', 'b']
  else if c = '\x0c' then ['\\', 'f']
  else if ' ' ≤ c ∧ c ≤ '~' then [c]
  else (units16 c).flatMap escapeUnit

/-- A text as a JSON string, quotes included. -/
def jsonString (text : String) : String :=
  String.ofList ('"' :: text.toList.flatMap jsonChar ++ ['"'])

end SexpReader.Text
