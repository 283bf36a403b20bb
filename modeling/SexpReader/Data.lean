/-
# Programs as data

A program as lists and labelled texts, and the JSON text of such data with one element per
line, indented by two spaces for each level.
-/

import SexpReader.Node
import SexpReader.Text.JsonString

namespace SexpReader

/-- What remains of a program when only lists and labelled texts may be used. -/
inductive Data
  | labelled (label text : String)
  | list (items : List Data)
  deriving Repr, Inhabited

mutual

/-- A leaf is its text under the label of its kind, an expression the list of its
children. -/
def Node.toData : Node → Data
  | .symbol text => .labelled Node.Kind.symbol.label text
  | .string text => .labelled Node.Kind.string.label text
  | .expression children => .list (toData children)

/-- The data of every node in order. -/
def toData : Program → List Data
  | [] => []
  | node :: nodes => node.toData :: toData nodes

end

namespace Data

/-- The start of a line at a level. -/
def newline (level : Nat) : String :=
  "\n" ++ String.ofList (List.replicate (2 * level) ' ')

mutual

/-- Write data behind a text, the elements one level further in. Only empty lists stay on
one line. -/
def write (level : Nat) (out : String) : Data → String
  | labelled label text =>
      out ++ "\x7b" ++ newline (level + 1) ++ Text.jsonString label ++ ": " ++
        Text.jsonString text ++ newline level ++ "\x7d"
  | list [] => out ++ "[]"
  | list (item :: items) =>
      writeMore (level + 1) (write (level + 1) (out ++ "[" ++ newline (level + 1)) item) items ++
        newline level ++ "]"

/-- Write the elements after the first, each behind a comma. -/
def writeMore (level : Nat) (out : String) : List Data → String
  | [] => out
  | item :: items =>
      writeMore level (write level (out ++ "," ++ newline level) item) items

end

/-- The JSON text of data. -/
def toJson (data : Data) : String :=
  write 0 "" data

end Data

/-- The JSON text of a program. -/
def toJson (program : Program) : String :=
  (Data.list (toData program)).toJson

end SexpReader
