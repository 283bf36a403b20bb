/-
# Construction of nodes

What the constructor of nodes admits, what it keeps of it, and which fault it reports of all else.
Nodes come from this constructor, from the one for expressions and from reading, each time with
nodes that were there before as the elements. The nodes that arise in this way are just those
that are well-formed at every depth as far as their fields tell.
-/

import SexpReader.Value.Construct
import SexpReader.Proofs.Value.Nodes

namespace SexpReader.Value

/-! ## Admission -/

/-- A kind and a value that make a node: a symbol or a string takes a text, an expression a list
or a tuple of nodes. -/
def IsAdmissible (kind value : Value) : Prop :=
  ((kind = nodeKind .symbol ∨ kind = nodeKind .string) ∧ ∃ content, value = text content) ∨
    kind = nodeKind .expression ∧
      ∃ items, (value = list items ∨ value = tuple items) ∧ ∀ item ∈ items, item.isNode = true

/-- A value as a node keeps it. The elements of a list are kept as a tuple. -/
def asKept : Value → Value
  | list items => tuple items
  | other => other

/-- The first fault of a kind and a value that make no node. The kind is looked at first, the
shape of the value after that, and the children of an expression last and from the left. -/
inductive FirstFault (kind value : Value) : Fault → Prop
  | kind : (∀ known, kind ≠ nodeKind known) → FirstFault kind value (.unknownNodeKind kind)
  | text {known : Node.Kind} : kind = nodeKind known → known ≠ .expression →
      (∀ content, value ≠ text content) → FirstFault kind value (.nodeNeedsText known)
  | sequence : kind = nodeKind .expression →
      (∀ items, value ≠ list items ∧ value ≠ tuple items) →
      FirstFault kind value (.childrenNoSequence value)
  | child {items : List Value} {other : Value} : kind = nodeKind .expression →
      value = list items ∨ value = tuple items → firstOther? items = some other →
      FirstFault kind value (.childNoNode other)

theorem FirstFault.family_eq {kind value : Value} {fault : Fault}
    (h : FirstFault kind value fault) : fault.family = .value := by
  cases h <;> rfl

theorem expressionOf_eq_onNodes (children : List Value) :
    expressionOf children = onNodes .childNoNode .expression children := by
  have hnodes : childNodes children = onNodes .childNoNode (List.map id) children := by
    unfold childNodes
    refine mapM_eq_onNodes (fun _ _ => by rfl) fun other hfirst => ?_
    have hother := List.find?_some hfirst
    cases other with
    | node _ => cases hother
    | _ => rfl
  rw [expressionOf, hnodes, List.map_id_fun, onNodes, onNodes]
  cases firstOther? children <;> rfl

theorem makeNode_expression {value : Value} {items : List Value}
    (h : value = list items ∨ value = tuple items) :
    makeNode (nodeKind .expression) value = expressionOf items := by
  rcases h with rfl | rfl <;> rfl

theorem FirstFault.makeNode_eq {kind value : Value} {fault : Fault}
    (h : FirstFault kind value fault) : makeNode kind value = .error fault := by
  cases h with
  | kind hunknown =>
      cases kind with
      | nodeKind known => exact absurd rfl (hunknown known)
      | _ => rfl
  | @text known hkind hleaf hother =>
      subst hkind
      cases known with
      | expression => exact absurd rfl hleaf
      | symbol | string =>
          cases value with
          | text content => exact absurd rfl (hother content)
          | _ => rfl
  | sequence hkind hother =>
      subst hkind
      cases value with
      | list items => exact absurd rfl (hother items).1
      | tuple items => exact absurd rfl (hother items).2
      | _ => rfl
  | child hkind hvalue hfirst =>
      rw [hkind, makeNode_expression hvalue, expressionOf_eq_onNodes, onNodes_of_firstOther? hfirst]

/-- What is made of an admissible kind and value, seen through the fields of the node. -/
theorem IsAdmissible.exists_makeNode {kind value : Value} (h : IsAdmissible kind value) :
    ∃ tree, makeNode kind value = .ok tree ∧ (node tree).field "kind" = .ok kind ∧
      (node tree).field "value" = .ok value.asKept := by
  rcases h with ⟨rfl | rfl, content, rfl⟩ | ⟨rfl, items, hvalue, hall⟩
  · exact ⟨.symbol content, rfl, rfl, rfl⟩
  · exact ⟨.string content, rfl, rfl, rfl⟩
  · have hnone := firstOther?_eq_none_iff.2 hall
    have hkept : value.asKept = tuple ((nodesOf items).map node) := by
      rw [map_node_nodesOf hnone]
      rcases hvalue with rfl | rfl <;> rfl
    refine ⟨.expression (nodesOf items), ?_, rfl, ?_⟩
    · rw [makeNode_expression hvalue, expressionOf_eq_onNodes, onNodes_of_nodes hnone]
    · rw [hkept]
      rfl

/-- There is nothing between the two. -/
theorem isAdmissible_or_exists_firstFault (kind value : Value) :
    IsAdmissible kind value ∨ ∃ fault, FirstFault kind value fault := by
  have hleaf {known : Node.Kind} (hknown : known ≠ .expression)
      (hadmits : ∀ content, value = text content → IsAdmissible (nodeKind known) value) :
      IsAdmissible (nodeKind known) value ∨ ∃ fault, FirstFault (nodeKind known) value fault := by
    by_cases htext : ∃ content, value = text content
    · obtain ⟨content, hvalue⟩ := htext
      exact Or.inl (hadmits content hvalue)
    · exact Or.inr ⟨_, FirstFault.text rfl hknown fun content hvalue => htext ⟨content, hvalue⟩⟩
  cases kind with
  | nodeKind known =>
      cases known with
      | symbol =>
          exact hleaf (by simp) fun content hvalue => Or.inl ⟨Or.inl rfl, content, hvalue⟩
      | string =>
          exact hleaf (by simp) fun content hvalue => Or.inl ⟨Or.inr rfl, content, hvalue⟩
      | expression =>
          by_cases hsequence : ∃ items, value = list items ∨ value = tuple items
          · obtain ⟨items, hvalue⟩ := hsequence
            cases hfirst : firstOther? items with
            | none =>
                exact Or.inl (Or.inr ⟨rfl, items, hvalue, firstOther?_eq_none_iff.1 hfirst⟩)
            | some other => exact Or.inr ⟨_, FirstFault.child rfl hvalue hfirst⟩
          · rw [not_exists] at hsequence
            exact Or.inr ⟨_, FirstFault.sequence rfl fun items => not_or.1 (hsequence items)⟩
  | _ => exact Or.inr ⟨_, FirstFault.kind fun known => by simp⟩

/-! ## Well-formed nodes -/

/-- A node that is well-formed as far as its fields tell: a leaf holds a text, an expression a
tuple of values that are well-formed nodes in the same sense. -/
inductive IsWellFormed : Value → Prop
  | leaf {value : Value} {kind : Node.Kind} {content : String} : value.isNode = true →
      value.field "kind" = .ok (nodeKind kind) → kind ≠ .expression →
      value.field "value" = .ok (text content) → IsWellFormed value
  | expression {value : Value} {children : List Value} : value.isNode = true →
      value.field "kind" = .ok (nodeKind .expression) →
      value.field "value" = .ok (tuple children) →
      (∀ child ∈ children, IsWellFormed child) → IsWellFormed value

/-- The nodes that a sequence of calls can produce. A call may be given any values, but the nodes
among their elements come from earlier calls. -/
inductive Produced : Node → Prop
  | node {kind value : Value} {tree : Node} :
      (∀ items child, value.elements? = some items → .node child ∈ items → Produced child) →
      makeNode kind value = .ok tree → Produced tree
  | expression {value : Value} {tree : Node} :
      (∀ items child, value.elements? = some items → .node child ∈ items → Produced child) →
      makeExpression value = .ok tree → Produced tree
  | parsed {items : List Value} {program : Program} {tree : Node} :
      parseItems items = .ok program → tree ∈ program → Produced tree
  | read {source : Value} {program : Program} {tree : Node} :
      readValue source = .ok program → tree ∈ program → Produced tree

mutual

theorem isWellFormed_node (tree : Node) : IsWellFormed (node tree) := by
  match tree with
  | .symbol _ | .string _ => exact IsWellFormed.leaf rfl rfl (by simp [Node.kind]) rfl
  | .expression children =>
      exact IsWellFormed.expression rfl rfl rfl fun child hchild =>
        isWellFormed_of_mem_map_node children hchild

theorem isWellFormed_of_mem_map_node (nodes : List Node) {value : Value}
    (h : value ∈ nodes.map node) : IsWellFormed value := by
  match nodes with
  | [] => cases h
  | tree :: nodes =>
      rw [List.map_cons] at h
      rcases List.mem_cons.1 h with rfl | hlater
      · exact isWellFormed_node tree
      · exact isWellFormed_of_mem_map_node nodes hlater

end

/-- A node is made again of what it holds. -/
theorem makeNode_ofNodeContent (tree : Node) :
    makeNode (nodeKind tree.kind) (ofNodeContent tree) = .ok tree := by
  cases tree with
  | symbol content | string content => rfl
  | expression children =>
      have hlist : ofNodeContent (.expression children) = tuple (children.map node) := rfl
      rw [hlist, Node.kind, makeNode_expression (Or.inr rfl), expressionOf_eq_onNodes,
        onNodes_of_nodes (firstOther?_map_node children), nodesOf_map_node]

/-- A node is produced where the nodes that it holds are. -/
theorem Produced.of_ofNodeContent {tree : Node}
    (h : ∀ items child, (ofNodeContent tree).elements? = some items → .node child ∈ items →
      Produced child) : Produced tree :=
  Produced.node h (makeNode_ofNodeContent tree)

/-- The induction follows the depth at which the fields are looked at, so that the children are
produced before the expression. -/
theorem IsWellFormed.exists_produced {value : Value} (h : value.IsWellFormed) :
    ∃ tree, value = node tree ∧ Produced tree := by
  induction h with
  | leaf hnode hkind hleaf hcontent =>
      obtain ⟨tree, rfl⟩ := isNode_eq_true_iff.1 hnode
      have htext := Except.ok.inj hcontent
      refine ⟨tree, rfl, Produced.of_ofNodeContent fun items child helements hmem => ?_⟩
      rw [htext] at helements
      obtain rfl := Option.some.inj helements
      simp [ofChars] at hmem
  | expression hnode hkind hcontent _ ih =>
      obtain ⟨tree, rfl⟩ := isNode_eq_true_iff.1 hnode
      have htuple := Except.ok.inj hcontent
      refine ⟨tree, rfl, Produced.of_ofNodeContent fun items child helements hmem => ?_⟩
      rw [htuple] at helements
      obtain rfl := Option.some.inj helements
      obtain ⟨_, heq, hproduced⟩ := ih _ hmem
      obtain rfl := node.inj heq
      exact hproduced

/-! ## The verdict of the constructors -/

/-- What the constructors of nodes make of a kind and a value. -/
structure AdmitsWellFormed (kind value : Value) : Prop where
  made_iff : (∃ tree, makeNode kind value = .ok tree) ↔ IsAdmissible kind value
  /-- The kind is kept as it is, and the value too, except that a list becomes a tuple. -/
  kept : ∀ tree, makeNode kind value = .ok tree →
    (node tree).field "kind" = .ok kind ∧ (node tree).field "value" = .ok value.asKept
  fault_iff : ∀ fault, makeNode kind value = .error fault ↔ FirstFault kind value fault
  family_eq : ∀ fault, makeNode kind value = .error fault → fault.family = .value
  /-- The constructor for expressions first makes a tuple of the elements of its value. -/
  expression_eq : ∀ items, value.elements? = some items →
    makeExpression value = makeNode (nodeKind .expression) (tuple items)
  expression_refused : value.elements? = none →
    makeExpression value = .error (.notIterable value.className) ∧
      (Fault.notIterable value.className).family = .type
  /-- From left to right, the type of nodes leaves no other choice: it holds texts in leaves and
  nodes in expressions, and making an expression fails unless all children are nodes. From
  right to left, every such tree is the outcome of calls. -/
  produced_iff : (∃ tree, value = node tree ∧ Produced tree) ↔ value.IsWellFormed

/-- The constructor makes a node exactly of what is admissible and keeps it, as a tuple where it
is a list; of all else it reports the first fault. The constructor for expressions does the same
with the elements of anything that has elements. What both and reading produce, one call after
another, are the nodes that are well-formed at every depth. That every node is well-formed is an
invariant of the type of nodes, which `childNodes` establishes where an expression is made. -/
theorem makeNode_admits (kind value : Value) : AdmitsWellFormed kind value := by
  have hverdict := isAdmissible_or_exists_firstFault kind value
  have hadmissible {tree : Node} (hmade : makeNode kind value = .ok tree) :
      IsAdmissible kind value := by
    refine hverdict.resolve_right ?_
    rintro ⟨fault, hfault⟩
    rw [hfault.makeNode_eq] at hmade
    cases hmade
  have hfault {fault : Fault} (hmade : makeNode kind value = .error fault) :
      FirstFault kind value fault := by
    rcases hverdict with hgood | ⟨other, hother⟩
    · obtain ⟨tree, hmakes, -⟩ := hgood.exists_makeNode
      rw [hmakes] at hmade
      cases hmade
    · rw [hother.makeNode_eq] at hmade
      cases hmade
      exact hother
  refine ⟨⟨fun ⟨_, hmade⟩ => hadmissible hmade, fun hgood => ?_⟩, fun tree hmade => ?_,
    fun _ => ⟨hfault, FirstFault.makeNode_eq⟩, fun _ hmade => (hfault hmade).family_eq,
    fun items helements => ?_, fun helements => ⟨?_, rfl⟩, ?_, IsWellFormed.exists_produced⟩
  · obtain ⟨tree, hmakes, -⟩ := hgood.exists_makeNode
    exact ⟨tree, hmakes⟩
  · obtain ⟨made, hmakes, hkept⟩ := (hadmissible hmade).exists_makeNode
    obtain rfl := Except.ok.inj (hmakes.symm.trans hmade)
    exact hkept
  · rw [makeExpression, elements_of_elements? helements]
    rfl
  · rw [makeExpression, elements, helements]
    rfl
  · rintro ⟨tree, rfl, -⟩
    exact isWellFormed_node tree

/-- A list of a node, a text and a number is refused for the text. A list of a node is kept as a
tuple. The text `ab` makes no expression by itself, and its elements are refused for the first
character. -/
theorem makeNode_admits_of_list :
    makeNode (nodeKind .expression) (list [node (.symbol "a"), text "b", int 3]) =
        .error (.childNoNode (text "b")) ∧
      (∃ tree, makeNode (nodeKind .expression) (list [node (.string "a")]) = .ok tree ∧
        (node tree).field "value" = .ok (tuple [node (.string "a")])) ∧
      makeNode (nodeKind .expression) (text "ab") = .error (.childrenNoSequence (text "ab")) ∧
      makeExpression (text "ab") = .error (.childNoNode (text "a")) ∧
      makeExpression (int 5) = .error (.notIterable "int") := by
  have hchild := makeNode_admits (nodeKind .expression)
    (list [node (.symbol "a"), text "b", int 3])
  have hnode := makeNode_admits (nodeKind .expression) (list [node (.string "a")])
  have htext := makeNode_admits (nodeKind .expression) (text "ab")
  have hnumber := makeNode_admits (nodeKind .expression) (int 5)
  obtain ⟨tree, hmade⟩ := hnode.made_iff.2 (Or.inr ⟨rfl, _, Or.inl rfl, by simp [isNode]⟩)
  refine ⟨(hchild.fault_iff _).2 (FirstFault.child rfl (Or.inl rfl) rfl),
    ⟨tree, hmade, (hnode.kept tree hmade).2⟩,
    (htext.fault_iff _).2 (FirstFault.sequence rfl (by simp)), ?_,
    (hnumber.expression_refused rfl).1⟩
  rw [htext.expression_eq _ rfl]
  rfl

end SexpReader.Value
