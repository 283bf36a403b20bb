/-
# Nesting depth

How deeply the brackets of a node are nested: the depth as it is computed, over a worklist
that needs no deep recursion, and the nesting as it is defined on trees.
-/

import SexpReader.Node

namespace SexpReader

namespace Node

mutual

/-- The number of nodes in a tree. -/
def size : Node → Nat
  | symbol _ | string _ => 1
  | expression children => 1 + sizeAll children

/-- The number of nodes in a sequence of trees. -/
def sizeAll : List Node → Nat
  | [] => 0
  | node :: nodes => node.size + sizeAll nodes

end

mutual

/-- Leaves have nesting zero, and an expression has one level more than its most nested
child. -/
def nesting : Node → Nat
  | symbol _ | string _ => 0
  | expression children => 1 + nestingAll children

/-- The nesting of the most nested node of a sequence, zero for none. -/
def nestingAll : List Node → Nat
  | [] => 0
  | node :: nodes => max node.nesting (nestingAll nodes)

end

/-- Put nodes of one level on top of a worklist, so that the last of them is taken first.
-/
def pushLevel (level : Nat) (nodes : List Node) (pending : List (Node × Nat)) :
    List (Node × Nat) :=
  nodes.foldl (fun pending node => (node, level) :: pending) pending

/-- The number of nodes in a worklist. -/
def pendingSize : List (Node × Nat) → Nat
  | [] => 0
  | (node, _) :: pending => node.size + pendingSize pending

/-- The nodes of a level are added to those that wait. -/
theorem pendingSize_pushLevel (level : Nat) (nodes : List Node) (pending : List (Node × Nat)) :
    pendingSize (pushLevel level nodes pending) = sizeAll nodes + pendingSize pending := by
  induction nodes generalizing pending with
  | nil => simp [pushLevel, sizeAll]
  | cons node nodes ih =>
      have := ih ((node, level) :: pending)
      simp only [pushLevel, List.foldl_cons, sizeAll] at this ⊢
      rw [this, pendingSize]
      omega

/-- Work through the nodes that wait, each with the number of brackets around it. -/
def deepest : List (Node × Nat) → Nat → Nat
  | [], best => best
  | (symbol _, _) :: pending, best => deepest pending best
  | (string _, _) :: pending, best => deepest pending best
  | (expression children, level) :: pending, best =>
      deepest (pushLevel (level + 1) children pending) (max best (level + 1))
termination_by pending => pendingSize pending
decreasing_by
  · simp [pendingSize, size]
  · simp [pendingSize, size]
  · rw [pendingSize_pushLevel, pendingSize, size]
    omega

/-- The bracket nesting depth of a node, zero for a leaf. -/
def depth (node : Node) : Nat :=
  deepest [(node, 0)] 0

end Node

end SexpReader
