/-
# Nodes

The trees that a text stands for. A node is a symbol, a string, or an expression, which
holds any number of nodes in order. A program is a sequence of nodes. Equality of nodes is
decidable.
-/

namespace SexpReader

/-- A tree of symbols and strings. -/
inductive Node
  | symbol (text : String)
  | string (text : String)
  | expression (children : List Node)
  deriving Repr, Inhabited

/-- A program is the sequence of its top-level nodes. -/
abbrev Program := List Node

namespace Node

/-- The three kinds of nodes. -/
inductive Kind
  | expression
  | symbol
  | string
  deriving DecidableEq, Repr

namespace Kind

/-- All kinds, in the order in which they are listed for a reader. -/
def all : List Kind := [expression, symbol, string]

/-- The word that stands for a kind in messages and data. -/
def label : Kind → String
  | expression => "expression"
  | symbol => "symbol"
  | string => "string"

/-- The name of a kind as a member of its enumeration. -/
def name : Kind → String
  | expression => "EXPRESSION"
  | symbol => "SYMBOL"
  | string => "STRING"

/-- The kind that a label stands for. -/
def ofLabel? (label : String) : Option Kind :=
  all.find? (·.label == label)

/-- The kind of a given name. -/
def ofName? (name : String) : Option Kind :=
  all.find? (·.name == name)

end Kind

/-- The kind of a node. -/
def kind : Node → Kind
  | symbol _ => .symbol
  | string _ => .string
  | expression _ => .expression

mutual

/-- Whether two trees have the same shape and the same texts. -/
def same : Node → Node → Bool
  | symbol first, symbol second => first == second
  | string first, string second => first == second
  | expression first, expression second => sameAll first second
  | _, _ => false

/-- Whether two sequences of trees agree tree by tree. -/
def sameAll : List Node → List Node → Bool
  | [], [] => true
  | first :: firsts, second :: seconds =>
      if same first second then sameAll firsts seconds else false
  | _, _ => false

end

mutual

/-- The comparison holds of equal trees only. -/
theorem eq_of_same {first second : Node} (h : same first second = true) : first = second := by
  match first, second with
  | symbol _, symbol _ => simpa [same] using h
  | string _, string _ => simpa [same] using h
  | expression firsts, expression seconds =>
      have parts : sameAll firsts seconds = true := by simpa [same] using h
      rw [eq_of_sameAll parts]
  | symbol _, string _ | symbol _, expression _ | string _, symbol _ | string _, expression _
  | expression _, symbol _ | expression _, string _ => simp [same] at h

/-- The comparison of sequences holds of equal sequences only. -/
theorem eq_of_sameAll {firsts seconds : List Node} (h : sameAll firsts seconds = true) :
    firsts = seconds := by
  match firsts, seconds with
  | [], [] => rfl
  | first :: firsts, second :: seconds =>
      have parts : same first second = true ∧ sameAll firsts seconds = true := by
        simpa [sameAll] using h
      rw [eq_of_same parts.1, eq_of_sameAll parts.2]
  | [], _ :: _ | _ :: _, [] => simp [sameAll] at h

end

mutual

/-- The comparison holds of a tree and itself. -/
theorem same_self (node : Node) : same node node = true := by
  match node with
  | symbol _ | string _ => simp [same]
  | expression children => simpa [same] using sameAll_self children

/-- The comparison of sequences holds of a sequence and itself. -/
theorem sameAll_self (nodes : List Node) : sameAll nodes nodes = true := by
  match nodes with
  | [] => rfl
  | node :: nodes => simp [sameAll, same_self node, sameAll_self nodes]

end

/-- The comparison decides equality. -/
theorem same_iff_eq {first second : Node} : same first second = true ↔ first = second :=
  ⟨eq_of_same, fun h => h ▸ same_self first⟩

instance : DecidableEq Node := fun _ _ => decidable_of_iff _ same_iff_eq

end Node

end SexpReader
