/-
# Line ends

Every line end becomes a line feed, whether it was written as a carriage return with a
line feed, as a carriage return alone, or as a line feed.
-/

namespace SexpReader.Text

/-- Append characters to a text with every line end as a line feed. -/
def unifyOnto : List Char → String → String
  | [], out => out
  | '\r' :: '\n' :: chars, out => unifyOnto chars (out.push '\n')
  | '\r' :: chars, out => unifyOnto chars (out.push '\n')
  | c :: chars, out => unifyOnto chars (out.push c)

/-- A text with every line end as a line feed. -/
def unifyNewlines (text : String) : String :=
  unifyOnto text.toList ""

end SexpReader.Text
