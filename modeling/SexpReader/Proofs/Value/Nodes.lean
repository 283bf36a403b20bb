/-
# Nodes among values

Sequences of values where nodes are wanted. The first value that is no node decides that such a
sequence is refused; where there is none, the sequence is one of nodes and nothing else.
-/

import SexpReader.Proofs.Value.Parsing
import SexpReader.Value.Field

namespace SexpReader.Value

/-- The node that a value is, if it is one. -/
def node? : Value → Option Node
  | node tree => some tree
  | _ => none

/-- The nodes among values, in order. -/
def nodesOf (items : List Value) : List Node :=
  items.filterMap node?

/-- The first value that is no node. -/
def firstOther? (items : List Value) : Option Value :=
  items.find? fun item => !item.isNode

/-- The nodes in front of the first value that is no node. -/
def leadingNodes (items : List Value) : List Node :=
  nodesOf (items.takeWhile isNode)

/-- The first value of a sequence that is no node, if there is one, has no kind. -/
def FirstOtherLacksKind (items : List Value) : Prop :=
  ∀ other, firstOther? items = some other → other.hasKind = false

/-- Do something with the nodes of a sequence, which is refused for the first value that is no
node. -/
def onNodes {α : Type} (fault : Value → Fault) (use : List Node → α) (items : List Value) :
    Except Fault α :=
  match firstOther? items with
  | some other => .error (fault other)
  | none => .ok (use (nodesOf items))

theorem nodesOf_node_cons (tree : Node) (items : List Value) :
    nodesOf (node tree :: items) = tree :: nodesOf items := rfl

theorem firstOther?_node_cons (tree : Node) (items : List Value) :
    firstOther? (node tree :: items) = firstOther? items := rfl

theorem leadingNodes_node_cons (tree : Node) (items : List Value) :
    leadingNodes (node tree :: items) = tree :: leadingNodes items := rfl

theorem firstOther?_cons_of_not_isNode {item : Value} (h : item.isNode = false)
    (items : List Value) : firstOther? (item :: items) = some item := by
  simp [firstOther?, h]

@[simp]
theorem nodesOf_map_node (nodes : List Node) : nodesOf (nodes.map node) = nodes := by
  induction nodes with
  | nil => rfl
  | cons tree nodes ih => rw [List.map_cons, nodesOf_node_cons, ih]

@[simp]
theorem firstOther?_map_node (nodes : List Node) : firstOther? (nodes.map node) = none := by
  simp [firstOther?, isNode]

theorem firstOther?_eq_none_iff {items : List Value} :
    firstOther? items = none ↔ ∀ item ∈ items, item.isNode = true := by
  simp [firstOther?]

theorem isNode_eq_true_iff {value : Value} : value.isNode = true ↔ ∃ tree, value = node tree := by
  cases value <;> simp [isNode]

namespace FirstOtherLacksKind

variable {item : Value} {items : List Value}

theorem of_nodes (h : ∀ item ∈ items, item.isNode = true) : FirstOtherLacksKind items := by
  intro other hfirst
  rw [firstOther?_eq_none_iff.2 h] at hfirst
  cases hfirst

/-- Either the head is a node and the tail decides, or the head is that first value. -/
theorem cons_cases (h : FirstOtherLacksKind (item :: items)) :
    (∃ tree, item = node tree ∧ FirstOtherLacksKind items) ∨
      item.isNode = false ∧ item.hasKind = false := by
  cases hkind : item.isNode with
  | true =>
      obtain ⟨tree, rfl⟩ := isNode_eq_true_iff.1 hkind
      exact Or.inl ⟨tree, rfl, h⟩
  | false => exact Or.inr ⟨rfl, h item (firstOther?_cons_of_not_isNode hkind items)⟩

end FirstOtherLacksKind

/-- So the elements of an expression are nodes. -/
theorem isNode_of_mem_elements {tree : Node} {content : Value} {items : List Value}
    (hkind : (node tree).field "kind" = .ok (nodeKind .expression))
    (hcontent : (node tree).field "value" = .ok content)
    (hitems : content.elements? = some items) : ∀ item ∈ items, item.isNode = true := by
  cases tree with
  | symbol _ | string _ => cases hkind
  | expression nodes =>
      cases hcontent
      cases hitems
      simp [isNode]

/-- Without other values a sequence is that of its nodes. -/
theorem map_node_nodesOf {items : List Value} (h : firstOther? items = none) :
    (nodesOf items).map node = items := by
  induction items with
  | nil => rfl
  | cons item items ih =>
      obtain ⟨hitem, hitems⟩ := List.forall_mem_cons.1 (firstOther?_eq_none_iff.1 h)
      obtain ⟨tree, rfl⟩ := isNode_eq_true_iff.1 hitem
      rw [nodesOf_node_cons, List.map_cons, ih (firstOther?_eq_none_iff.2 hitems)]

theorem onNodes_of_firstOther? {α : Type} {items : List Value} {other : Value}
    (h : firstOther? items = some other) (fault : Value → Fault) (use : List Node → α) :
    onNodes fault use items = .error (fault other) := by
  rw [onNodes, h]

theorem onNodes_of_nodes {α : Type} {items : List Value} (h : firstOther? items = none)
    (fault : Value → Fault) (use : List Node → α) :
    onNodes fault use items = .ok (use (nodesOf items)) := by
  rw [onNodes, h]

/-- Doing something with one node after the other. What is behind the first value that is no node
does not come into it. -/
theorem mapM_eq_onNodes {β : Type} {f : Value → Except Fault β} {g : Node → β}
    {fault : Value → Fault} {items : List Value}
    (hnode : ∀ tree ∈ leadingNodes items, f (node tree) = .ok (g tree))
    (hother : ∀ other, firstOther? items = some other → f other = .error (fault other)) :
    items.mapM f = onNodes fault (List.map g) items := by
  induction items with
  | nil => rfl
  | cons item items ih =>
      rw [List.mapM_cons]
      cases hkind : item.isNode with
      | false =>
          have hfirst := firstOther?_cons_of_not_isNode hkind items
          rw [hother item hfirst, onNodes_of_firstOther? hfirst]
          rfl
      | true =>
          obtain ⟨tree, rfl⟩ := isNode_eq_true_iff.1 hkind
          rw [leadingNodes_node_cons] at hnode
          obtain ⟨htree, hlater⟩ := List.forall_mem_cons.1 hnode
          rw [htree, ih hlater hother, onNodes, onNodes, firstOther?_node_cons,
            nodesOf_node_cons]
          cases firstOther? items <;> rfl

/-- The elements of a value that has elements. -/
theorem elements_of_elements? {value : Value} {items : List Value}
    (h : value.elements? = some items) : value.elements = .ok items := by
  rw [elements, h]

end SexpReader.Value
