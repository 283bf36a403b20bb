/-
# Quoted text

A text between double quotes, in which a backslash stands before every double quote and
every backslash. The quoted form is made in two passes over the text: backslashes are
doubled first, so that the backslashes put before the quotes stay single.
-/

namespace SexpReader.Text

/-- Replace every occurrence of one character. -/
def replaceChar (target : Char) (replacement : List Char) (chars : List Char) : List Char :=
  chars.flatMap fun c => if c = target then replacement else [c]

/-- The text between double quotes, backslashes doubled first and quotes escaped after
that. -/
def quote (text : String) : String :=
  let doubled := replaceChar '\\' ['\\', '\\'] text.toList
  let escaped := replaceChar '"' ['\\', '"'] doubled
  String.ofList ('"' :: escaped ++ ['"'])

/-- The form of one character inside quotes. -/
def escapeChar (c : Char) : List Char :=
  if c = '"' ∨ c = '\\' then ['\\', c] else [c]

end SexpReader.Text
