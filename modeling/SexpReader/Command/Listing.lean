/-
# Listings

Lexemes as lines of text: the offset, a tab, the kind, and for symbols and strings the
text as a JSON string, so that no text can break its line.
-/

import SexpReader.Token
import SexpReader.Text.JsonString

namespace SexpReader.Command

/-- The line of one lexeme. -/
def listingLine (lexeme : Lexeme Nat) : String :=
  let value :=
    match lexeme.token.text? with
    | some text => " " ++ Text.jsonString text
    | none => ""
  toString lexeme.position ++ "\t" ++ lexeme.token.kind.label ++ value ++ "\n"

/-- The lines of all lexemes. -/
def listing (lexemes : List (Lexeme Nat)) : String :=
  String.join (lexemes.map listingLine)

end SexpReader.Command
