/-
# The scanner in registers

The scanner with a state, a buffer and a start that are kept apart. Outside all tokens the buffer
and the start still hold what is left from the last token; inside a token they are its own. With
what is left forgotten, a look at a character is a look of the scanner, so leftovers have no
influence.
-/

import SexpReader.Lexeme.Scanner

namespace SexpReader

/-- What the scanner is in the middle of, without what it has collected. -/
inductive State
  | base
  | symbol
  | string
  | escape
  | comment
  deriving DecidableEq, Repr

/-- The registers between two looks at a character. -/
structure Registers where
  state : State
  buffer : List Char
  start : Nat
  position : Nat
  lexemes : Array (Lexeme Nat)
  deriving DecidableEq, Repr

namespace Registers

/-- Pass the character at hand. -/
def pass (registers : Registers) : Registers :=
  { registers with position := registers.position + 1 }

/-- A token at an offset is complete. -/
def emit (registers : Registers) (token : Token) (start : Nat) : Registers :=
  { registers with state := .base, lexemes := registers.lexemes.push ⟨token, start⟩ }

/-- Look at a character outside all tokens. -/
def lookBase (registers : Registers) (c : Char) : Registers :=
  if c = '(' then (registers.emit .openBracket registers.position).pass
  else if c = ')' then (registers.emit .closeBracket registers.position).pass
  else if c = '"' then
    ({ registers with buffer := [], start := registers.position, state := .string }).pass
  else if c = ';' then ({ registers with state := .comment }).pass
  else if isDelimiter c then registers.pass
  else ({ registers with buffer := [c], start := registers.position, state := .symbol }).pass

/-- Look at one character. The registers that a state does not name keep what they hold. -/
def look (registers : Registers) (c : Char) : Registers :=
  match registers.state with
  | .base => registers.lookBase c
  | .symbol =>
      if isSymbolChar c then ({ registers with buffer := registers.buffer ++ [c] }).pass
      else registers.emit (.symbol (String.ofList registers.buffer)) registers.start
  | .string =>
      if c = '"' then
        (registers.emit (.string (String.ofList registers.buffer)) registers.start).pass
      else if c = '\\' then ({ registers with state := .escape }).pass
      else ({ registers with buffer := registers.buffer ++ [c] }).pass
  | .escape => ({ registers with buffer := registers.buffer ++ [c], state := .string }).pass
  | .comment =>
      if c = '\n' then ({ registers with state := .base }).pass else registers.pass

/-- The lexemes of a text that ends here. -/
def finish (registers : Registers) : Except LexError (List (Lexeme Nat)) :=
  match registers.state with
  | .base | .comment => .ok registers.lexemes.toList
  | .symbol =>
      .ok (registers.emit (.symbol (String.ofList registers.buffer)) registers.start).lexemes.toList
  | .string => .error (.unterminatedString (String.ofList registers.buffer) registers.start)
  | .escape => .error (.danglingEscape (String.ofList registers.buffer) registers.start)

/-- The mode that the registers are in. Only inside a token it has a part of the buffer and the
start. -/
def mode (registers : Registers) : Mode :=
  match registers.state with
  | .base => .base
  | .symbol => .symbol registers.start (String.ofList registers.buffer)
  | .string => .string registers.start (String.ofList registers.buffer)
  | .escape => .escape registers.start (String.ofList registers.buffer)
  | .comment => .comment

/-- The scanner that is left when leftovers are forgotten. -/
def scanner (registers : Registers) : Scanner :=
  ⟨registers.position, registers.mode, registers.lexemes⟩

theorem ofList_push (buffer : List Char) (c : Char) :
    (String.ofList buffer).push c = String.ofList (buffer ++ [c]) :=
  String.ext (by simp)

theorem scanner_lookBase {registers : Registers} (h : registers.state = .base) (c : Char) :
    (registers.lookBase c).scanner = registers.scanner.stepBase c := by
  obtain ⟨state, buffer, start, position, lexemes⟩ := registers
  obtain rfl : state = .base := h
  simp only [lookBase, Scanner.stepBase, apply_ite scanner]
  rfl

/-- A look in registers is a look of the scanner. -/
theorem scanner_look (registers : Registers) (c : Char) :
    (registers.look c).scanner = registers.scanner.step c := by
  obtain ⟨state, buffer, start, position, lexemes⟩ := registers
  cases state with
  | base => exact scanner_lookBase rfl c
  | symbol | string | escape =>
      simp only [look, apply_ite scanner]
      simp only [scanner, mode, Scanner.step, ofList_push]
      rfl
  | comment =>
      by_cases hc : c = '\n' <;>
        simp [look, scanner, mode, pass, Scanner.step, Scanner.advance, hc]

theorem finish_scanner (registers : Registers) : registers.scanner.finish = registers.finish := by
  obtain ⟨state, buffer, start, position, lexemes⟩ := registers
  cases state <;> rfl

end Registers

end SexpReader
