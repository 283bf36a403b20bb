/-
# Error reports

The errors of the reader as values, built from whatever they are to report. A special kind
words its message itself; the general kinds take any message.
-/

import SexpReader.Value.Fault

namespace SexpReader.Value

/-- A lexical error with a message of its own. -/
def lexicalReport (serial : Nat) (message buffer position : Value) : Value :=
  report serial .lexical message buffer position

/-- A string without its closing quote. -/
def unterminatedStringReport (serial : Nat) (buffer position : Value) : Value :=
  report serial .unterminatedString (text (LexError.unterminatedSummary buffer.asText)) buffer
    position

/-- A backslash that ends the text inside a string. -/
def danglingEscapeReport (serial : Nat) (buffer position : Value) : Value :=
  report serial .danglingEscape (text (LexError.danglingSummary buffer.asText)) buffer position

/-- A bracket error with a message of its own. -/
def bracketReport (serial : Nat) (message position : Value) : Value :=
  report serial .bracket message absent position

/-- An open bracket that is never closed. -/
def unclosedBracketReport (serial : Nat) (position : Value) : Value :=
  report serial .unclosedBracket (text BracketError.unclosedSummary) absent position

/-- A close bracket that closes nothing. -/
def superfluousBracketReport (serial : Nat) (position : Value) : Value :=
  report serial .superfluousBracket (text BracketError.superfluousSummary) absent position

/-- An error of the root kind with a message of its own. -/
def malformedSourceReport (serial : Nat) (message position : Value) : Value :=
  report serial .malformedSource message absent position

/-- An error of a kind from its parts in order. A part that is not given is absent, except
that the buffer of a lexical error is then empty. -/
def makeReport (serial : Nat) (kind : ErrorKind) (parts : List Value) : Except Fault Value :=
  let part (index : Nat) : Value := parts.getD index absent
  match kind.requiredParts.drop parts.length with
  | missing :: _ => .error (.missingPart kind missing)
  | [] =>
      if kind.requiredParts.length + kind.optionalParts.length < parts.length then
        .error (.excessParts kind parts.length)
      else .ok (match kind with
        | .malformedSource => malformedSourceReport serial (part 0) (part 1)
        | .lexical => lexicalReport serial (part 0) (parts.getD 1 (text "")) (part 2)
        | .unterminatedString => unterminatedStringReport serial (part 0) (part 1)
        | .danglingEscape => danglingEscapeReport serial (part 0) (part 1)
        | .bracket => bracketReport serial (part 0) (part 1)
        | .unclosedBracket => unclosedBracketReport serial (part 0)
        | .superfluousBracket => superfluousBracketReport serial (part 0))

end SexpReader.Value
