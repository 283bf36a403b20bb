/-
# The canonical grammar

The texts that are their own canonical form: exactly one space between neighbours, none at
the ends, no comments, and a backslash in a string only where it is needed.
-/

import SexpReader.CharClass

namespace SexpReader.Canonical

/-- The characters between the quotes of a string without needless backslashes. -/
inductive Body : List Char → Prop
  | nil : Body []
  | plain {c : Char} {body : List Char} : c ≠ '"' → c ≠ '\\' → Body body → Body (c :: body)
  | quote {body : List Char} : Body body → Body ('\\' :: '"' :: body)
  | backslash {body : List Char} : Body body → Body ('\\' :: '\\' :: body)

mutual

/-- The canonical texts of one node. -/
inductive NodeText : List Char → Prop
  | symbol {text : List Char} :
      text ≠ [] → (∀ c ∈ text, isSymbolChar c = true) → NodeText text
  | string {body : List Char} : Body body → NodeText ('"' :: body ++ ['"'])
  | expression {text : List Char} : ProgramText text → NodeText ('(' :: text ++ [')'])

/-- The canonical texts of one or more nodes. -/
inductive NodesText : List Char → Prop
  | one {text : List Char} : NodeText text → NodesText text
  | more {text rest : List Char} :
      NodeText text → NodesText rest → NodesText (text ++ ' ' :: rest)

/-- The canonical texts of a program. -/
inductive ProgramText : List Char → Prop
  | empty : ProgramText []
  | nodes {text : List Char} : NodesText text → ProgramText text

end

end SexpReader.Canonical
