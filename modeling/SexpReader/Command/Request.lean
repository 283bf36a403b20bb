/-
# Requests

What the arguments of the command line ask for: a source, and the format of the answer.
There are one or two arguments, and a second one has to be the name of a format.
-/

namespace SexpReader.Command

/-- The formats of the answer: canonical source, JSON, or one lexeme per line. -/
inductive Format
  | source
  | json
  | lexemes
  deriving DecidableEq, Repr

/-- The format of a given name. -/
def Format.ofName? : String → Option Format
  | "sexp" => some .source
  | "json" => some .json
  | "lexemes" => some .lexemes
  | _ => none

/-- A source, by its name, and the format of the answer. -/
structure Request where
  source : String
  format : Format
  deriving DecidableEq, Repr

namespace Request

/-- The name that stands for the standard input. -/
def standardInput : String := "-"

/-- What arguments ask for, if they are well-formed. Without a format they ask for source.
-/
def ofArguments? : List String → Option Request
  | [source] => some ⟨source, .source⟩
  | [source, format] => (Format.ofName? format).map fun format => ⟨source, format⟩
  | _ => none

end Request

end SexpReader.Command
