/-
# Reading and writing arbitrary values

The reader and the two printers on values and on sequences that may hold anything. The
elements are used from left to right, so an earlier fault wins. What is read may be a text
or a sequence in place of one. The builder and the printers do not look at the class of a
value. They go by its kind alone, so the builder passes over nodes and over objects whose
kind says nothing to it. The source printer stops at the first absent value of the outermost
level, the data printer does not. The data printer is recursive and has room for so many
calls within one another, where the source printer has no such bound.
-/

import SexpReader.Value.Composition
import SexpReader.Value.Construct
import SexpReader.Value.SequenceScanner
import SexpReader.Read

namespace SexpReader

namespace Fault

/-- A bracket without a partner in a text. -/
def ofBracket (error : BracketError Nat) : Fault :=
  .bracket (error.map fun position : Nat => .int position)

end Fault

namespace Value

/-- The lexemes of a value. It must have a length and, where that is not zero, an element
at each index; a labelled value has a length but no element at index zero. -/
def tokenizeValue (source : Value) : Except Fault (List (Lexeme Nat)) :=
  match source with
  | text content => (tokenize content).mapError .lexical
  | list items | tuple items => tokenizeItems items
  | labelled _ _ => .error (.missingKey (int 0))
  | other => .error (.noLength other.className)

/-- A bracket without a partner, at the position of the value that stands for it. That value is
asked for its position only now. -/
def bracketFault (error : BracketError Value) : Fault :=
  match error.position.field "position" with
  | .ok position => .bracket (error.map fun _ => position)
  | .error fault => fault

/-- Hand one value to a builder. Only the kind of the value decides what it is taken for, and a
value whose kind is none of tokens is passed over without effect. The builder keeps the value
itself in the place of a position. -/
def pushOnto (builder : Builder Value) (value : Value) : Except Fault (Builder Value) := do
  match ← value.field "kind" with
  | tokenKind .openBracket => (builder.push ⟨.openBracket, value⟩).mapError bracketFault
  | tokenKind .closeBracket => (builder.push ⟨.closeBracket, value⟩).mapError bracketFault
  | tokenKind .symbol => return builder.append (← makeSymbol (← value.field "value"))
  | tokenKind .string => return builder.append (← makeString (← value.field "value"))
  | _ => return builder

/-- The program that a sequence of values stands for. -/
def parseItems (items : List Value) : Except Fault Program := do
  let builder ← items.foldlM pushOnto Builder.empty
  builder.finish.mapError bracketFault

/-- The program that the elements of a value stand for. -/
def parseValue (lexemes : Value) : Except Fault Program := do
  parseItems (← lexemes.elements)

/-- The program that a value stands for in place of a text. -/
def readValue (source : Value) : Except Fault Program := do
  (parse (← source.tokenizeValue)).mapError .ofBracket

/-- The canonical text of a sequence of values. -/
def printItems (items : List Value) : Except Fault String :=
  (Composition.initial items).run

/-- The canonical text of the elements of a value. -/
def printValue (nodes : Value) : Except Fault String := do
  printItems (← nodes.elements)

/-- The data of one value, found by recursion into the elements of its content as far as there
is room. A value that is neither a symbol nor a string by its kind is taken apart, so a token
is too: the characters of its text have no kind, and a bracket has no elements at all. -/
def itemData (room : Nat) (value : Value) : Except Fault Value :=
  match room with
  | 0 => .error .tooDeep
  | room + 1 => do
      match ← value.field "kind" with
      | nodeKind .symbol => return labelled Node.Kind.symbol.label (← value.field "value")
      | nodeKind .string => return labelled Node.Kind.string.label (← value.field "value")
      | _ =>
          let items ← (← value.field "value").elements
          return list (← items.mapM (itemData room))

/-- The data of a sequence of values. -/
def itemsData (room : Nat) (items : List Value) : Except Fault (List Value) :=
  items.mapM (itemData room)

/-- The data of the elements of a value. -/
def dataOfValue (room : Nat) (nodes : Value) : Except Fault (List Value) := do
  itemsData room (← nodes.elements)

end Value

end SexpReader
