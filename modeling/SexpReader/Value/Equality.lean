/-
# Equality of values

When two values count as equal. Truth values count as the numbers one and zero, a lexeme
is compared without its position, a list never equals a tuple, a report or an object of
another class equals itself only, and otherwise values of different classes differ.
-/

import SexpReader.Value

namespace SexpReader.Value

/-- The number that a truth value or an integer counts as. -/
def number? : Value → Option Int
  | bool flag => some (if flag then 1 else 0)
  | int number => some number
  | _ => none

/-- The serial number of a value that is told apart from all others with the same contents. -/
def serial? : Value → Option Nat
  | report serial _ _ _ _ => some serial
  | foreign self _ _ => some self.serial
  | _ => none

mutual

/-- Whether two values count as equal. -/
def equals : Value → Value → Bool
  | absent, absent => true
  | text first, text second => first == second
  | list firsts, list seconds => equalsAll firsts seconds
  | tuple firsts, tuple seconds => equalsAll firsts seconds
  | tokenKind first, tokenKind second => first == second
  | nodeKind first, nodeKind second => first == second
  | lexeme first _, lexeme second _ => first == second
  | node first, node second => first == second
  | labelled firstLabel first, labelled secondLabel second =>
      if firstLabel = secondLabel then equals first second else false
  | first, second =>
      match first.number?, second.number?, first.serial?, second.serial? with
      | some first, some second, _, _ => first == second
      | _, _, some first, some second => first == second
      | _, _, _, _ => false

/-- Whether two sequences agree value by value. -/
def equalsAll : List Value → List Value → Bool
  | [], [] => true
  | first :: firsts, second :: seconds =>
      if equals first second then equalsAll firsts seconds else false
  | _, _ => false

end

/-- The values without those that equal an earlier one. -/
def withoutRepeats (values : List Value) : List Value :=
  values.foldl (fun kept value => if kept.any (equals · value) then kept else kept ++ [value]) []

mutual

/-- The class that keeps a value from being a member of a set, if any does: only values
that cannot change may be members. -/
def mutableClass? : Value → Option String
  | list _ => some "list"
  | labelled _ _ => some "dict"
  | tuple items => mutableClassIn? items
  | foreign self _ _ => if self.isMutable then some self.className else none
  | _ => none

/-- The first class in a sequence that keeps a value from being a member of a set. -/
def mutableClassIn? : List Value → Option String
  | [] => none
  | value :: values =>
      match mutableClass? value with
      | some className => some className
      | none => mutableClassIn? values

end

end SexpReader.Value
