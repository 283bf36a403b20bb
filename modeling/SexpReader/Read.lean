/-
# Reading

From text to program in one step, and the two kinds of errors that reading can end in.
-/

import SexpReader.Lexeme.Scanner
import SexpReader.Node.Builder
import SexpReader.Node.Printer

namespace SexpReader

/-- Why a text is no program. -/
inductive ReadError
  | lexical (error : LexError)
  | bracket (error : BracketError Nat)
  deriving DecidableEq, Repr

namespace ReadError

/-- The full message. -/
def message : ReadError → String
  | lexical error => error.message
  | bracket error => error.message

/-- The offset that the message names. -/
def position : ReadError → Nat
  | lexical error => error.position
  | bracket error => error.position

end ReadError

/-- The program that a text stands for. The text is cut into lexemes as a whole first, so
a lexical error anywhere wins over every bracket error. -/
def read (source : String) : Except ReadError Program := do
  let lexemes ← (tokenize source).mapError ReadError.lexical
  (parse lexemes).mapError ReadError.bracket

/-- Whether a text is the canonical text of the program that it stands for. -/
def isCanonical (source : String) : Bool :=
  match read source with
  | .ok program => toSource program == source
  | .error _ => false

end SexpReader
