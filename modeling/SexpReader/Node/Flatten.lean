/-
# Flattening

The tokens of a tree in the order in which they are read: a leaf is one token, an
expression its children between two brackets. Flattening a program is what building one
has to undo.
-/

import SexpReader.Node
import SexpReader.Token

namespace SexpReader

mutual

/-- The tokens of a node. -/
def Node.flatten : Node → List Token
  | .symbol text => [.symbol text]
  | .string text => [.string text]
  | .expression children => .openBracket :: flatten children ++ [.closeBracket]

/-- The tokens of a program. -/
def flatten : Program → List Token
  | [] => []
  | node :: nodes => node.flatten ++ flatten nodes

end

/-- The tokens of a program come node by node. -/
theorem flatten_append (first second : Program) :
    flatten (first ++ second) = flatten first ++ flatten second := by
  induction first with
  | nil => simp [flatten]
  | cons node nodes ih => simp [flatten, ih]

end SexpReader
