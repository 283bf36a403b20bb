/-
# Hexadecimal digits

Fixed-width lower-case hexadecimal numerals, as escapes use them.
-/

namespace SexpReader.Text

/-- The lower-case hexadecimal digit at a place, the last place being zero. -/
def hexDigitAt (n place : Nat) : Char :=
  Nat.digitChar (n / Nat.pow 16 place % 16)

/-- The last `width` hexadecimal digits of a number, leading zeros included. -/
def hexDigits (width n : Nat) : List Char :=
  (List.range width).reverse.map (hexDigitAt n)

end SexpReader.Text
