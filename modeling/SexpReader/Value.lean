/-
# Values

What callers may hand to the library: absence, truth values, integers, texts, lists and
tuples, the members of the two enumerations of kinds, lexemes, nodes, labelled values, which
are the leaves of program data, error reports, and objects of all other classes. A lexeme may
have any value as its position, because positions are not checked, and a report may be about
any values.

Of an object of another class it is known what the library asks for: its class, its fields,
the elements that come out when it is gone through, and how a message shows it. Such an
object may have any fields, also those that make it look like a lexeme or a node. Classes
themselves are objects too. Two things are left out. An instance of a class derived from one
of the classes above counts as an instance of that class. And a field holds a value that is
there: it does not run code when it is looked at, and it cannot be called.
-/

import SexpReader.Node
import SexpReader.Token
import SexpReader.Data
import SexpReader.ErrorKind

namespace SexpReader

/-- What is known of an object of another class, apart from what it holds. It has a serial
number, because it is told apart from every other object. The wording for a field that it
lacks is the one of its class, with the name of the field in the middle; a class itself, for
instance, does not speak of its objects there. An object that can change is no member of a
set. -/
structure Foreign where
  serial : Nat
  className : String
  lacksBefore : String := "'" ++ className ++ "' object has no attribute '"
  lacksAfter : String := "'"
  isMutable : Bool := false
  quoted : String
  plain : String := quoted
  deriving DecidableEq, Repr, Inhabited

/-- A value of one of the classes that the library deals with, or an object of another class.
A report has a serial number like such an object. Its buffer is absent where its kind has
none. -/
inductive Value
  | absent
  | bool (flag : Bool)
  | int (number : Int)
  | text (text : String)
  | list (items : List Value)
  | tuple (items : List Value)
  | tokenKind (kind : Token.Kind)
  | nodeKind (kind : Node.Kind)
  | lexeme (token : Token) (position : Value)
  | node (node : Node)
  | labelled (label : String) (content : Value)
  | report (serial : Nat) (kind : ErrorKind) (message buffer position : Value)
  | foreign (self : Foreign) (fields : List (String × Value)) (items? : Option (List Value))
  deriving Repr, Inhabited

namespace Value

/-- The name of the class that a value belongs to, as messages give it. -/
def className : Value → String
  | absent => "NoneType"
  | bool _ => "bool"
  | int _ => "int"
  | text _ => "str"
  | list _ => "list"
  | tuple _ => "tuple"
  | tokenKind _ => "LexemeKind"
  | nodeKind _ => "NodeKind"
  | lexeme _ _ => "Lexeme"
  | node _ => "Node"
  | labelled _ _ => "dict"
  | report _ kind _ _ _ => kind.name
  | foreign self _ _ => self.className

/-- Whether a value is the absent one. -/
def isAbsent : Value → Bool
  | absent => true
  | _ => false

/-- The characters of a text as texts of one character. -/
def ofChars (chars : List Char) : List Value :=
  chars.map fun c => text (String.singleton c)

/-- The elements of a value that has elements, in order. A text has its characters, a
labelled value its label. -/
def elements? : Value → Option (List Value)
  | list items | tuple items => some items
  | text content => some (ofChars content.toList)
  | labelled label _ => some [text label]
  | foreign _ _ items? => items?
  | _ => none

/-- The text of a token as a value; a bracket has none. -/
def ofTokenText (token : Token) : Value :=
  match token.text? with
  | some content => text content
  | none => absent

/-- A lexeme cut from a text. -/
def ofLexeme (lexeme : Lexeme Nat) : Value :=
  .lexeme lexeme.token (int lexeme.position)

/-- A program is a tuple of nodes. -/
def ofProgram (program : Program) : Value :=
  tuple (program.map node)

/-- What a node holds: the text of a leaf, the tuple of an expression's children. -/
def ofNodeContent : Node → Value
  | .symbol content | .string content => text content
  | .expression children => tuple (children.map node)

mutual

/-- Data as a value. -/
def ofData : Data → Value
  | .labelled label content => labelled label (text content)
  | .list items => list (ofDataList items)

/-- A sequence of data as values. -/
def ofDataList : List Data → List Value
  | [] => []
  | item :: items => ofData item :: ofDataList items

end

end Value

end SexpReader
