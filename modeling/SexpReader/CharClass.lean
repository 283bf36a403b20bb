/-
# Classes of characters

The notation divides the characters into three classes. Structural characters are a token
or open one, delimiters only separate, and every other character may stand in a symbol.
-/

namespace SexpReader

/-- The brackets, the double quote that opens a string, and the semicolon that opens a
comment. -/
def isStructural (c : Char) : Bool :=
  c == '(' || c == ')' || c == '"' || c == ';'

/-- Tab, space, line feed and carriage return; no other blank separates. -/
def isDelimiter (c : Char) : Bool :=
  c == '\t' || c == ' ' || c == '\n' || c == '\r'

/-- Whatever neither structures the text nor separates may stand in a symbol. -/
def isSymbolChar (c : Char) : Bool :=
  !isStructural c && !isDelimiter c

/-- The three classes, of which every character has exactly one. -/
inductive CharClass
  | structural
  | delimiter
  | symbol
  deriving DecidableEq, Repr

namespace CharClass

/-- The class of one character. -/
def ofChar (c : Char) : CharClass :=
  if isStructural c then .structural
  else if isDelimiter c then .delimiter
  else .symbol

/-- The class of a text. Only texts of one character can be structural or delimiters, so
the empty text and every longer one count as symbol text. -/
def ofText (text : String) : CharClass :=
  match text.toList with
  | [c] => ofChar c
  | _ => .symbol

end CharClass

/-- No character both structures and separates. -/
theorem isStructural_eq_false_of_isDelimiter {c : Char} (h : isDelimiter c = true) :
    isStructural c = false := by
  simp only [isDelimiter, Bool.or_eq_true, beq_iff_eq] at h
  rcases h with ((rfl | rfl) | rfl) | rfl <;> rfl

/-- A character has class symbol exactly when it may stand in a symbol. -/
theorem CharClass.ofChar_eq_symbol_iff {c : Char} :
    CharClass.ofChar c = .symbol ↔ isSymbolChar c = true := by
  unfold CharClass.ofChar isSymbolChar
  cases isStructural c <;> cases isDelimiter c <;> simp

end SexpReader
