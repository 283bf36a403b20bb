/-
# Canonical text

The text of a program with one space between neighbours and no other blanks. The text is
written as a list of pieces over a stack of frames, one for each level that is still being
written, so that deep trees need no deep recursion. Beside it stands the rendering defined
on the tree.
-/

import SexpReader.Node
import SexpReader.Text.Quoted

namespace SexpReader

namespace Node

mutual

/-- The number of visits that writing a node takes. -/
def visits : Node → Nat
  | symbol _ | string _ => 1
  | expression children => 2 + visitsAll children

/-- The number of visits that writing a sequence of nodes takes. -/
def visitsAll : List Node → Nat
  | [] => 0
  | node :: nodes => node.visits + visitsAll nodes

end

end Node

namespace Printer

/-- A level that is being written: the nodes still to come, and whether none is written
yet. -/
structure Level where
  remaining : List Node
  isFirst : Bool

/-- The visits that a stack of levels still takes. -/
def workload : List Level → Nat
  | [] => 0
  | level :: outer => 1 + Node.visitsAll level.remaining + workload outer

/-- The pieces with a separating space, unless the next node is the first of its level. -/
def separate (isFirst : Bool) (pieces : Array String) : Array String :=
  if isFirst then pieces else pieces.push " "

/-- Write the levels, innermost first. A level that is done is closed by a bracket, unless
it is the outermost one. -/
def write : List Level → Array String → Array String
  | [], pieces => pieces
  | ⟨[], _⟩ :: outer, pieces =>
      write outer (if outer.isEmpty then pieces else pieces.push ")")
  | ⟨.symbol text :: rest, isFirst⟩ :: outer, pieces =>
      write (⟨rest, false⟩ :: outer) ((separate isFirst pieces).push text)
  | ⟨.string text :: rest, isFirst⟩ :: outer, pieces =>
      write (⟨rest, false⟩ :: outer) ((separate isFirst pieces).push (Text.quote text))
  | ⟨.expression children :: rest, isFirst⟩ :: outer, pieces =>
      write (⟨children, true⟩ :: ⟨rest, false⟩ :: outer) ((separate isFirst pieces).push "(")
termination_by levels => workload levels
decreasing_by
  all_goals simp [workload, Node.visitsAll, Node.visits]
  all_goals omega

/-- Put the pieces together. -/
def join (pieces : Array String) : String :=
  pieces.foldl (· ++ ·) ""

end Printer

/-- The canonical text of a program. -/
def toSource (program : Program) : String :=
  Printer.join (Printer.write [⟨program, true⟩] #[])

mutual

/-- The characters of a node: a symbol as it is, a string in quotes, an expression in
brackets. -/
def Node.render : Node → List Char
  | .symbol text => text.toList
  | .string text => '"' :: text.toList.flatMap Text.escapeChar ++ ['"']
  | .expression children => '(' :: renderAll children ++ [')']

/-- The characters of a sequence of nodes, with one space between neighbours. -/
def renderAll : List Node → List Char
  | [] => []
  | [node] => node.render
  | node :: next :: nodes => node.render ++ ' ' :: renderAll (next :: nodes)

end

end SexpReader
