/-
# Sequences

Places, stretches and joins of lists, tuples and texts. A negative index counts from the
end. An index must hit an element, while the bounds of a stretch are moved to the nearest
place that exists, and may be absent. Numbers are joined by adding them up. Objects of other
classes count as having no places.
-/

import SexpReader.Value.Fault
import SexpReader.Value.Equality

namespace SexpReader.Value

/-- The place that an index means in a sequence of a given length, if it means one. -/
def place? (length : Nat) (index : Int) : Option Nat :=
  let shifted := if index < 0 then index + length else index
  if 0 ≤ shifted ∧ shifted < length then some shifted.toNat else none

/-- The nearest place to a bound, where the length itself is the place behind the last
element. -/
def clip (length : Nat) (bound : Int) : Nat :=
  min (if bound < 0 then bound + length else bound).toNat length

/-- The stretch of a list from a place up to, and without, another. -/
def stretch {α : Type} (items : List α) (start stop : Int) : List α :=
  let first := clip items.length start
  (items.take (clip items.length stop)).drop first

/-- The number that a bound stands for. An absent bound lies at an end of the sequence. -/
def boundNumber (bound : Value) (atEnd : Int) : Except Fault Int :=
  match bound with
  | absent => .ok atEnd
  | other =>
      match other.number? with
      | some number => .ok number
      | none => .error .boundNoNumber

/-- The stretch of a list between two bounds. -/
def stretchBetween {α : Type} (items : List α) (start stop : Value) : Except Fault (List α) := do
  let first ← start.boundNumber 0
  return stretch items first (← stop.boundNumber items.length)

/-- The indices that some sequence could have an element at are those of 64 bits with a
sign. -/
def isIndex (index : Int) : Bool :=
  -0x8000000000000000 ≤ index && index < 0x8000000000000000

/-- The element at an index of a list. -/
def elementAt (sequence : String) (items : List Value) (index : Value) : Except Fault Value :=
  match index.number? with
  | none => .error (.indexNoNumber sequence index.className)
  | some number =>
      if isIndex number then
        match place? items.length number with
        | some place => .ok (items.getD place absent)
        | none => .error (.indexOutOfRange sequence)
      else
        .error .indexTooLarge

/-- What stands under a label. A value that can change is no label. -/
def contentUnder (label : String) (content key : Value) : Except Fault Value :=
  match key.mutableClass? with
  | some className => .error (.mutableMember className)
  | none => if key.equals (text label) then .ok content else .error (.missingKey key)

/-- The element of a value at an index. A labelled value has its content under its label. -/
def get (value index : Value) : Except Fault Value :=
  match value with
  | list items => elementAt "list" items index
  | tuple items => elementAt "tuple" items index
  | text content => elementAt "string" (ofChars content.toList) index
  | labelled label content => contentUnder label content index
  | _ => .error (.notIndexable value.className)

/-- The stretch of a value between two bounds, of the same class as the value. For a labelled
value the pair of bounds would have to be a label, and it is none because it can change. -/
def slice (value start stop : Value) : Except Fault Value :=
  match value with
  | list items => (stretchBetween items start stop).map list
  | tuple items => (stretchBetween items start stop).map tuple
  | text content =>
      (stretchBetween content.toList start stop).map fun chars => text (String.ofList chars)
  | labelled _ _ => .error (.mutableMember "slice")
  | _ => .error (.notIndexable value.className)

/-- Two lists, two tuples or two texts joined end to end, or the sum of two numbers. -/
def concat (first second : Value) : Except Fault Value :=
  match first, second with
  | list firsts, list seconds => .ok (list (firsts ++ seconds))
  | tuple firsts, tuple seconds => .ok (tuple (firsts ++ seconds))
  | text first, text second => .ok (text (first ++ second))
  | _, _ =>
      match first.number?, second.number? with
      | some first, some second => .ok (int (first + second))
      | _, _ => .error (.notJoinable first.className second.className)

/-- Put one more piece at the end of a text. The piece comes with its place among the
pieces. -/
def appendPiece (joined : String) (piece : Value × Nat) : Except Fault String :=
  match piece with
  | (text content, _) => .ok (joined ++ content)
  | (other, index) => .error (.pieceNoText index other.className)

/-- The text that pieces of text make up together. -/
def joinPieces (pieces : List Value) : Except Fault String :=
  pieces.zipIdx.foldlM appendPiece ""

/-- The number of elements that differ from one another. -/
def countDistinct (value : Value) : Except Fault Nat := do
  let items ← value.elements
  match mutableClassIn? items with
  | some className => .error (.mutableMember className)
  | none => .ok (withoutRepeats items).length

end SexpReader.Value
