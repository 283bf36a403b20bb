/-
# Diagnostics

The ways in which a text fails to be a program, as causes with the data that each one
reports, and the one wording of each. Lexical errors carry the text collected so far and
the offset of the opening quote; bracket errors carry the place of the bracket.
-/

namespace SexpReader

/-- A message with the offset appended when one is known. -/
def withOffset (message : String) : Option String → String
  | none => message
  | some offset => message ++ " at offset " ++ offset

/-- A string that the text ends in the middle of. -/
inductive LexError
  | unterminatedString (buffer : String) (position : Nat)
  | danglingEscape (buffer : String) (position : Nat)
  deriving DecidableEq, Repr

namespace LexError

/-- The wording for a string without its closing quote. -/
def unterminatedSummary (buffer : String) : String :=
  "Unexpected end of string after \"" ++ buffer ++ "\""

/-- The wording for a backslash that ends the text inside a string. -/
def danglingSummary (buffer : String) : String :=
  "Unused escape character after \"" ++ buffer ++ "\""

/-- The message without the offset. -/
def summary : LexError → String
  | unterminatedString buffer _ => unterminatedSummary buffer
  | danglingEscape buffer _ => danglingSummary buffer

/-- The text of the unfinished string so far, escapes already resolved. -/
def buffer : LexError → String
  | unterminatedString buffer _ | danglingEscape buffer _ => buffer

/-- The offset of the quote that opened the unfinished string. -/
def position : LexError → Nat
  | unterminatedString _ position | danglingEscape _ position => position

/-- The full message. -/
def message (error : LexError) : String :=
  withOffset error.summary (some (toString error.position))

end LexError

/-- A bracket that has no partner. -/
inductive BracketError (ρ : Type)
  | unclosed (position : ρ)
  | superfluous (position : ρ)
  deriving DecidableEq, Repr

namespace BracketError

/-- The wording for an open bracket that is never closed. -/
def unclosedSummary : String := "Unclosed bracket found"

/-- The wording for a close bracket that closes nothing. -/
def superfluousSummary : String := "Superfluous bracket found"

/-- The message without the offset. -/
def summary {ρ : Type} : BracketError ρ → String
  | unclosed _ => unclosedSummary
  | superfluous _ => superfluousSummary

/-- The place of the bracket. -/
def position {ρ : Type} : BracketError ρ → ρ
  | unclosed position | superfluous position => position

/-- The same error with the place of the bracket in another form. -/
def map {ρ σ : Type} (f : ρ → σ) : BracketError ρ → BracketError σ
  | unclosed position => .unclosed (f position)
  | superfluous position => .superfluous (f position)

/-- The full message for a bracket at an offset. -/
def message (error : BracketError Nat) : String :=
  withOffset error.summary (some (toString error.position))

end BracketError

end SexpReader
