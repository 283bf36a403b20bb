/-
# Faults

Why an operation refuses the values that it is given: the causes with what each one
reports, the family that each belongs to, and the one wording of each.
-/

import SexpReader.Value.Display
import SexpReader.Diagnostic

namespace SexpReader

/-- A refusal. -/
inductive Fault
  /-- Something other than a kind of token where one is needed. -/
  | unknownTokenKind (given : Value)
  /-- Something other than a kind of node where one is needed. -/
  | unknownNodeKind (given : Value)
  /-- A symbol or string token whose value is no text. -/
  | tokenNeedsText (kind : Token.Kind)
  /-- A bracket token with a value. -/
  | tokenHasNoValue (kind : Token.Kind)
  /-- A symbol or string node whose value is no text. -/
  | nodeNeedsText (kind : Node.Kind)
  /-- An expression whose value is neither list nor tuple. -/
  | childrenNoSequence (given : Value)
  /-- An expression with a child that is no node. -/
  | childNoNode (given : Value)
  /-- A value that is the label of no member of an enumeration. -/
  | noSuchMember (enumeration : String) (given : Value)
  /-- Something without elements where elements are needed. -/
  | notIterable (className : String)
  /-- Something other than a text where a text is to be read. -/
  | noLength (className : String)
  /-- The children of a leaf. -/
  | noChildren (kind : Node.Kind)
  /-- A field that the class does not have. -/
  | noField (className field : String)
  /-- A field that an object of another class does not have. -/
  | noForeignField (object : Foreign) (field : String)
  /-- An attempt to give a field a new value. -/
  | fixedField (field : String)
  /-- An attempt to remove a field. -/
  | permanentField (field : String)
  /-- An index beyond the elements of a sequence. -/
  | indexOutOfRange (sequence : String)
  /-- An index that no sequence could have an element at. -/
  | indexTooLarge
  /-- An index that is no number. -/
  | indexNoNumber (sequence className : String)
  /-- A bound of a stretch that is neither a number nor absent. -/
  | boundNoNumber
  /-- An index into a labelled value other than its label. -/
  | missingKey (key : Value)
  /-- An index into something without places. -/
  | notIndexable (className : String)
  /-- Two values that cannot be joined end to end. -/
  | notJoinable (first second : String)
  /-- A member of a set that can change. -/
  | mutableMember (className : String)
  /-- A piece of output that is no text. -/
  | pieceNoText (index : Nat) (className : String)
  /-- A field in the place of an operation. -/
  | notCallable (className : String)
  /-- A tree that is deeper than recursion goes. -/
  | tooDeep
  /-- An error report without a part that it needs. -/
  | missingPart (kind : ErrorKind) (part : String)
  /-- An error report with more parts than its kind has. -/
  | excessParts (kind : ErrorKind) (given : Nat)
  /-- A text that cannot be cut into lexemes. -/
  | lexical (error : LexError)
  /-- Lexemes whose brackets do not match. -/
  | bracket (error : BracketError Value)

namespace Fault

/-- The families of refusals that callers tell apart. -/
inductive Family
  | value
  | type
  | field
  | frozen
  | index
  | key
  | recursion
  | unterminatedString
  | danglingEscape
  | unclosedBracket
  | superfluousBracket
  deriving DecidableEq, Repr

/-- The family of a refusal. -/
def family : Fault → Family
  | unknownTokenKind _ | unknownNodeKind _ | tokenNeedsText _ | tokenHasNoValue _
  | nodeNeedsText _ | childrenNoSequence _ | childNoNode _ | noSuchMember _ _ => .value
  | notIterable _ | noLength _ | noChildren _ | indexNoNumber _ _ | boundNoNumber
  | notIndexable _ | notJoinable _ _ | mutableMember _ | pieceNoText _ _ | notCallable _
  | missingPart _ _ | excessParts _ _ => .type
  | noField _ _ | noForeignField _ _ => .field
  | fixedField _ | permanentField _ => .frozen
  | indexOutOfRange _ | indexTooLarge => .index
  | missingKey _ => .key
  | tooDeep => .recursion
  | lexical (.unterminatedString _ _) => .unterminatedString
  | lexical (.danglingEscape _ _) => .danglingEscape
  | bracket (.unclosed _) => .unclosedBracket
  | bracket (.superfluous _) => .superfluousBracket

/-- The wording where two values cannot be joined. Sequences name what they could be
joined with. -/
def notJoinableMessage (first second : String) : String :=
  if ["list", "tuple", "str"].contains first then
    "can only concatenate " ++ first ++ " (not \"" ++ second ++ "\") to " ++ first
  else
    "unsupported operand type(s) for +: '" ++ first ++ "' and '" ++ second ++ "'"

/-- The wording where an index is no number. A text has no stretches to speak of there. -/
def indexNoNumberMessage (sequence className : String) : String :=
  if sequence = "string" then "string indices must be integers, not '" ++ className ++ "'"
  else sequence ++ " indices must be integers or slices, not " ++ className

/-- The wording where an error report is given too many parts. The report itself counts as
one. -/
def excessPartsMessage (kind : ErrorKind) (given : Nat) : String :=
  let least := kind.requiredParts.length + 1
  let most := least + kind.optionalParts.length
  kind.name ++ ".__init__() takes from " ++ toString least ++ " to " ++ toString most ++
    " positional arguments but " ++ toString (given + 1) ++ " were given"

/-- The wording of a refusal. A class and a field that it does not have stand in plain
quotes, while a field that cannot change is written as a literal. -/
def message : Fault → String
  | unknownTokenKind given => "unknown lexeme kind " ++ given.display
  | unknownNodeKind given => "unknown node kind " ++ given.display
  | tokenNeedsText kind => kind.label ++ " lexeme requires a text value"
  | tokenHasNoValue kind => kind.label ++ " lexeme carries no value"
  | nodeNeedsText kind => kind.label ++ " node requires a text value"
  | childrenNoSequence given =>
      "expression node requires a sequence of children, got " ++ given.display
  | childNoNode given => "expression child must be a Node, got " ++ given.display
  | noSuchMember enumeration given => given.display ++ " is not a valid " ++ enumeration
  | notIterable className => "'" ++ className ++ "' object is not iterable"
  | noLength className => "object of type '" ++ className ++ "' has no len()"
  | noChildren kind => kind.label ++ " node has no children"
  | noField className field =>
      "'" ++ className ++ "' object has no attribute '" ++ field ++ "'"
  | noForeignField object field => object.lacksBefore ++ field ++ object.lacksAfter
  | fixedField field => "cannot assign to field " ++ Text.literal field
  | permanentField field => "cannot delete field " ++ Text.literal field
  | indexOutOfRange sequence => sequence ++ " index out of range"
  | indexTooLarge => "cannot fit 'int' into an index-sized integer"
  | indexNoNumber sequence className => indexNoNumberMessage sequence className
  | boundNoNumber => "slice indices must be integers or None or have an __index__ method"
  | missingKey key => key.display
  | notIndexable className => "'" ++ className ++ "' object is not subscriptable"
  | notJoinable first second => notJoinableMessage first second
  | mutableMember className => "unhashable type: '" ++ className ++ "'"
  | pieceNoText index className =>
      "sequence item " ++ toString index ++ ": expected str instance, " ++ className ++ " found"
  | notCallable className => "'" ++ className ++ "' object is not callable"
  | tooDeep => "maximum recursion depth exceeded"
  | missingPart kind part =>
      kind.name ++ ".__init__() missing 1 required positional argument: " ++ Text.literal part
  | excessParts kind given => excessPartsMessage kind given
  | lexical error => error.message
  | bracket error => withOffset error.summary error.position.offsetText?

/-- The position that a refusal reports, where its family reports one. -/
def position? : Fault → Option Value
  | lexical error => some (.int error.position)
  | bracket error => some error.position
  | _ => none

/-- The unfinished text that a refusal reports, where its family reports one. -/
def buffer? : Fault → Option String
  | lexical error => some error.buffer
  | _ => none

end Fault

/-- The fault of a value without a field that is asked for. -/
def Value.lacks (value : Value) (field : String) : Fault :=
  match value with
  | foreign self _ _ => .noForeignField self field
  | other => .noField other.className field

/-- The elements of a value that must have elements. -/
def Value.elements (value : Value) : Except Fault (List Value) :=
  match value.elements? with
  | some items => .ok items
  | none => .error (.notIterable value.className)

end SexpReader
