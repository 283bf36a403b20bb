/-
# Literals

How a text is shown inside a message: in single quotes, or in double quotes where that
avoids escaping, with escapes for backslashes, the quote in use, and characters without a
visible form.
-/

import SexpReader.Text.Hex
import SexpReader.Text.Printable

namespace SexpReader.Text

/-- Single quotes, except around a text that has a single quote and no double quote. -/
def quoteFor (text : String) : Char :=
  if text.toList.contains '\'' && !text.toList.contains '"' then '"' else '\''

/-- One character of a literal whose quote is given. -/
def literalChar (quote c : Char) : List Char :=
  if c = quote ∨ c = '\\' then ['\\', c]
  else if c = '\t' then ['\\', 't']
  else if c = '\n' then ['\\', 'n']
  else if c = '\r' then ['\\', 'r']
  else if isPrintable c then [c]
  else if c.toNat < 0x100 then '\\' :: 'x' :: hexDigits 2 c.toNat
  else if c.toNat < 0x10000 then '\\' :: 'u' :: hexDigits 4 c.toNat
  else '\\' :: 'U' :: hexDigits 8 c.toNat

/-- A text as a literal. -/
def literal (text : String) : String :=
  let quote := quoteFor text
  String.ofList (quote :: text.toList.flatMap (literalChar quote) ++ [quote])

end SexpReader.Text
