/-
# The scanner

Cuts a text into lexemes. A scanner reads one character after another; its mode tells what
an unfinished token holds so far. A symbol ends at the first character that cannot belong
to it, and that character is then looked at once more, outside the symbol. Inside a string
a backslash passes the next character as it is. Comments run to the end of their line.
-/

import SexpReader.CharClass
import SexpReader.Token
import SexpReader.Diagnostic

namespace SexpReader

/-- What the scanner is in the middle of. A token in progress keeps the offset of its
first character and the text collected so far. -/
inductive Mode
  | base
  | symbol (start : Nat) (text : String)
  | string (start : Nat) (text : String)
  | escape (start : Nat) (text : String)
  | comment
  deriving DecidableEq, Repr

/-- A scanner between two looks at a character: the offset of the next character, the
mode, and the lexemes that are complete. -/
structure Scanner where
  position : Nat
  mode : Mode
  lexemes : Array (Lexeme Nat)
  deriving DecidableEq, Repr

namespace Scanner

/-- The scanner at the start of a text. -/
def initial : Scanner := ⟨0, .base, #[]⟩

/-- Pass the character at hand and go on in the given mode. -/
def advance (scanner : Scanner) (mode : Mode) : Scanner :=
  { scanner with position := scanner.position + 1, mode := mode }

/-- Pass the character at hand, which completes a token, and go on outside all tokens. -/
def complete (scanner : Scanner) (token : Token) (start : Nat) : Scanner :=
  { position := scanner.position + 1
    mode := .base
    lexemes := scanner.lexemes.push ⟨token, start⟩ }

/-- Look at a character outside all tokens. -/
def stepBase (scanner : Scanner) (c : Char) : Scanner :=
  if c = '(' then scanner.complete .openBracket scanner.position
  else if c = ')' then scanner.complete .closeBracket scanner.position
  else if c = '"' then scanner.advance (.string scanner.position "")
  else if c = ';' then scanner.advance .comment
  else if isDelimiter c then scanner.advance .base
  else scanner.advance (.symbol scanner.position (String.singleton c))

/-- Look at one character. The character is passed, except where it ends a symbol: then
the symbol is complete and the same character is still to be looked at, outside all
tokens. -/
def step (scanner : Scanner) (c : Char) : Scanner :=
  match scanner.mode with
  | .base => scanner.stepBase c
  | .symbol start text =>
      if isSymbolChar c then scanner.advance (.symbol start (text.push c))
      else { scanner with
        mode := .base, lexemes := scanner.lexemes.push ⟨.symbol text, start⟩ }
  | .string start text =>
      if c = '"' then scanner.complete (.string text) start
      else if c = '\\' then scanner.advance (.escape start text)
      else scanner.advance (.string start (text.push c))
  | .escape start text => scanner.advance (.string start (text.push c))
  | .comment => scanner.advance (if c = '\n' then .base else .comment)

/-- Look at a character until it is passed. A second look is always enough, because it
happens outside all tokens. -/
def feed (scanner : Scanner) (c : Char) : Scanner :=
  let position := scanner.position
  let next := scanner.step c
  if next.position = position then next.step c else next

/-- Read all characters in order. -/
def feedAll (scanner : Scanner) (chars : List Char) : Scanner :=
  chars.foldl feed scanner

/-- The lexemes of a text that ends here. The end completes a symbol and closes a comment,
but a string needs its quote. -/
def finish (scanner : Scanner) : Except LexError (List (Lexeme Nat)) :=
  match scanner.mode with
  | .base | .comment => .ok scanner.lexemes.toList
  | .symbol start text => .ok (scanner.lexemes.push ⟨.symbol text, start⟩).toList
  | .string start text => .error (.unterminatedString text start)
  | .escape start text => .error (.danglingEscape text start)

/-- Outside all tokens a look passes the character. -/
theorem stepBase_position (scanner : Scanner) (c : Char) :
    (scanner.stepBase c).position = scanner.position + 1 := by
  grind [stepBase, complete, advance]

/-- Every look either passes the character or completes a symbol and leaves it. -/
theorem step_position (scanner : Scanner) (c : Char) :
    (scanner.step c).position = scanner.position + 1 ∨
      ((scanner.step c).position = scanner.position ∧ (scanner.step c).mode = .base) := by
  cases mode : scanner.mode with
  | base => exact Or.inl (by rw [step, mode, stepBase_position])
  | symbol start text => grind [step, advance]
  | string start text => grind [step, complete, advance]
  | escape start text => grind [step, advance]
  | comment => grind [step, advance]

/-- Feeding a character passes it. -/
theorem feed_position (scanner : Scanner) (c : Char) :
    (scanner.feed c).position = scanner.position + 1 := by
  unfold feed
  rcases scanner.step_position c with passed | ⟨left, mode⟩
  · simp [passed]
  · have again : (scanner.step c).step c = (scanner.step c).stepBase c := by
      rw [step, mode]
    simp only [left, if_true, again, stepBase_position]

end Scanner

/-- The lexemes of a text, each at the offset of its first character. -/
def tokenize (source : String) : Except LexError (List (Lexeme Nat)) :=
  (Scanner.initial.feedAll source.toList).finish

end SexpReader
