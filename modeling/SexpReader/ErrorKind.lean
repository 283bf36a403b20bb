/-
# Kinds of errors

The errors of the reader form two families, lexical and bracket errors, below one root,
malformed source.
-/

namespace SexpReader

/-- The kinds of errors, general and specific ones. -/
inductive ErrorKind
  | malformedSource
  | lexical
  | unterminatedString
  | danglingEscape
  | bracket
  | unclosedBracket
  | superfluousBracket
  deriving DecidableEq, Repr

namespace ErrorKind

/-- All kinds, the general ones before their special cases. -/
def all : List ErrorKind :=
  [malformedSource, lexical, unterminatedString, danglingEscape, bracket, unclosedBracket,
    superfluousBracket]

/-- The name of a kind, as messages give it. -/
def name : ErrorKind → String
  | malformedSource => "SyntaxError"
  | lexical => "LexError"
  | unterminatedString => "UnterminatedString"
  | danglingEscape => "DanglingEscape"
  | bracket => "ParseError"
  | unclosedBracket => "UnclosedBracket"
  | superfluousBracket => "SuperfluousBracket"

/-- The kind of a given name. -/
def ofName? (name : String) : Option ErrorKind :=
  all.find? (·.name == name)

/-- The next more general kind. -/
def parent? : ErrorKind → Option ErrorKind
  | malformedSource => none
  | lexical | bracket => some malformedSource
  | unterminatedString | danglingEscape => some lexical
  | unclosedBracket | superfluousBracket => some bracket

/-- All more general kinds, from the nearest to the root. -/
def ancestors : ErrorKind → List ErrorKind
  | malformedSource => []
  | lexical | bracket => [malformedSource]
  | unterminatedString | danglingEscape => [lexical, malformedSource]
  | unclosedBracket | superfluousBracket => [bracket, malformedSource]

/-- Whether errors of a kind report the text collected so far. Only lexical ones do. -/
def hasBuffer : ErrorKind → Bool
  | lexical | unterminatedString | danglingEscape => true
  | malformedSource | bracket | unclosedBracket | superfluousBracket => false

/-- The parts that must be given to build an error of a kind. -/
def requiredParts : ErrorKind → List String
  | malformedSource | lexical | bracket => ["message"]
  | unterminatedString | danglingEscape => ["buffer"]
  | unclosedBracket | superfluousBracket => []

/-- The parts that may be given behind the required ones. -/
def optionalParts : ErrorKind → List String
  | lexical => ["buffer", "position"]
  | malformedSource | unterminatedString | danglingEscape | bracket | unclosedBracket
  | superfluousBracket => ["position"]

end ErrorKind

/-- Going up one kind gives the first ancestor, and its ancestors are the rest. -/
theorem ErrorKind.ancestors_eq (kind : ErrorKind) :
    kind.ancestors = match kind.parent? with
      | none => []
      | some parent => parent :: parent.ancestors := by
  cases kind <;> rfl

end SexpReader
