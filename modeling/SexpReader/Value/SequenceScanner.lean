/-
# The scanner of sequences

Cuts a list or tuple into lexemes, with its elements in place of the characters of a text.
An element that is a text of one character acts as that character, and every other element
may stand in a symbol. A token keeps the elements that it is made of and becomes a text
only where it is complete, so an element that is no text is refused there and not before.
Outside strings and comments the class of an element is looked up, which only values that
cannot change allow.
-/

import SexpReader.CharClass
import SexpReader.Value.Sequence

namespace SexpReader

namespace Value

/-- The character that a value is, if it is a text of one character. -/
def char? (value : Value) : Option Char :=
  match value with
  | text content =>
      match content.toList with
      | [c] => some c
      | _ => none
  | _ => none

/-- The class of a value in place of a character. Whatever is no text counts as symbol
text, except that a value that can change has no class. -/
def charClass (value : Value) : Except Fault CharClass :=
  match value.mutableClass? with
  | some className => .error (.mutableMember className)
  | none =>
      match value with
      | text content => .ok (.ofText content)
      | _ => .ok .symbol

end Value

/-- What the scanner of a sequence is in the middle of. A token in progress keeps the index
of its first element and the elements collected so far, the last one first. -/
inductive SequenceMode
  | base
  | symbol (start : Nat) (pieces : List Value)
  | string (start : Nat) (pieces : List Value)
  | escape (start : Nat) (pieces : List Value)
  | comment

/-- A scanner between two elements of a sequence: the index of the next element, the mode,
and the lexemes that are complete. -/
structure SequenceScanner where
  position : Nat
  mode : SequenceMode
  lexemes : Array (Lexeme Nat)

namespace SequenceScanner

/-- The scanner at the start of a sequence. -/
def initial : SequenceScanner := ⟨0, .base, #[]⟩

/-- Pass the element at hand and go on in the given mode. -/
def advance (scanner : SequenceScanner) (mode : SequenceMode) : SequenceScanner :=
  { scanner with position := scanner.position + 1, mode := mode }

/-- Add a complete token. The element at hand is not passed. -/
def emit (scanner : SequenceScanner) (token : Token) (start : Nat) : SequenceScanner :=
  { scanner with mode := .base, lexemes := scanner.lexemes.push ⟨token, start⟩ }

/-- Look at an element outside all tokens. -/
def stepBase (scanner : SequenceScanner) (value : Value) : Except Fault SequenceScanner :=
  match value.char? with
  | some '(' => .ok ((scanner.emit .openBracket scanner.position).advance .base)
  | some ')' => .ok ((scanner.emit .closeBracket scanner.position).advance .base)
  | some '"' => .ok (scanner.advance (.string scanner.position []))
  | some ';' => .ok (scanner.advance .comment)
  | _ => do
      match ← value.charClass with
      | .delimiter => return scanner.advance .base
      | _ => return scanner.advance (.symbol scanner.position [value])

/-- Read one element. One that ends a symbol is then looked at outside all tokens. -/
def feed (scanner : SequenceScanner) (value : Value) : Except Fault SequenceScanner :=
  match scanner.mode with
  | .base => scanner.stepBase value
  | .symbol start pieces => do
      match ← value.charClass with
      | .symbol => return scanner.advance (.symbol start (value :: pieces))
      | _ => (scanner.emit (.symbol (← Value.joinPieces pieces.reverse)) start).stepBase value
  | .string start pieces =>
      match value.char? with
      | some '"' => do
          let content ← Value.joinPieces pieces.reverse
          return (scanner.emit (.string content) start).advance .base
      | some '\\' => .ok (scanner.advance (.escape start pieces))
      | _ => .ok (scanner.advance (.string start (value :: pieces)))
  | .escape start pieces => .ok (scanner.advance (.string start (value :: pieces)))
  | .comment =>
      match value.char? with
      | some '\n' => .ok (scanner.advance .base)
      | _ => .ok (scanner.advance .comment)

/-- The lexemes of a sequence that ends here. The end completes a symbol and closes a
comment, but a string needs its quote. -/
def finish (scanner : SequenceScanner) : Except Fault (List (Lexeme Nat)) :=
  match scanner.mode with
  | .base | .comment => .ok scanner.lexemes.toList
  | .symbol start pieces => do
      let content ← Value.joinPieces pieces.reverse
      return (scanner.emit (.symbol content) start).lexemes.toList
  | .string start pieces => do
      throw (.lexical (.unterminatedString (← Value.joinPieces pieces.reverse) start))
  | .escape start pieces => do
      throw (.lexical (.danglingEscape (← Value.joinPieces pieces.reverse) start))

end SequenceScanner

/-- The lexemes of a sequence, each at the index of its first element. -/
def tokenizeItems (items : List Value) : Except Fault (List (Lexeme Nat)) := do
  (← items.foldlM SequenceScanner.feed SequenceScanner.initial).finish

end SexpReader
