/-
# Tokens and lexemes

A token is one unit of the notation. A lexeme is a token together with the place where it
starts. The place is a parameter: lexemes cut from a text have an offset, while lexemes
put together by hand may carry anything, or nothing, as their place.
-/

namespace SexpReader

/-- A unit of the notation. Only symbols and strings carry a text; the text of a string is
the one it stands for, without the quotes and the escaping backslashes. -/
inductive Token
  | openBracket
  | closeBracket
  | symbol (text : String)
  | string (text : String)
  deriving DecidableEq, Repr, Inhabited

namespace Token

/-- The four kinds of tokens. -/
inductive Kind
  | openBracket
  | closeBracket
  | symbol
  | string
  deriving DecidableEq, Repr

namespace Kind

/-- All kinds, in the order in which they are listed for a reader. -/
def all : List Kind := [openBracket, closeBracket, symbol, string]

/-- The word that stands for a kind in listings and messages. -/
def label : Kind → String
  | openBracket => "open-bracket"
  | closeBracket => "close-bracket"
  | symbol => "symbol"
  | string => "string"

/-- The name of a kind as a member of its enumeration. -/
def name : Kind → String
  | openBracket => "OPEN_BRACKET"
  | closeBracket => "CLOSE_BRACKET"
  | symbol => "SYMBOL"
  | string => "STRING"

/-- The kind that a label stands for. -/
def ofLabel? (label : String) : Option Kind :=
  all.find? (·.label == label)

/-- The kind of a given name. -/
def ofName? (name : String) : Option Kind :=
  all.find? (·.name == name)

end Kind

/-- The kind of a token. -/
def kind : Token → Kind
  | openBracket => .openBracket
  | closeBracket => .closeBracket
  | symbol _ => .symbol
  | string _ => .string

/-- The text of a symbol or string; brackets have none. -/
def text? : Token → Option String
  | openBracket | closeBracket => none
  | symbol text | string text => some text

end Token

/-- A token and the place where it starts. -/
structure Lexeme (ρ : Type) where
  token : Token
  position : ρ
  deriving DecidableEq, Repr

end SexpReader
