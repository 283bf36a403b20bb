/-
# What the rounds of the source printer write

The source printer takes an absent value for the end of a row of values. In the rows that it
opens for expressions no value is absent, because they hold the children of an expression, and
those are nodes. Over such a row it writes the renderings of the nodes. Both are shown of one
round first, and then of all rounds, where the nodes are followed by induction on the tree.
In the outermost row an absent value hides what is behind it. That is so whatever the rows over
it hold, since what is written of a value does not depend on the rows below.
-/

import Mathlib.Data.List.TakeWhile
import Mathlib.Logic.Relation
import SexpReader.Proofs.Node.Printing
import SexpReader.Proofs.Value.Nodes
import SexpReader.Value.Composition

namespace SexpReader.Value

/-- The values in front of the first absent one, or all of them. -/
def untilAbsent (items : List Value) : List Value :=
  items.takeWhile fun item => !item.isAbsent

theorem untilAbsent_cons {item : Value} (h : item.isAbsent = false) (items : List Value) :
    untilAbsent (item :: items) = item :: untilAbsent items := by
  simp [untilAbsent, h]

theorem untilAbsent_cons_of_isAbsent {item : Value} (h : item.isAbsent = true)
    (items : List Value) : untilAbsent (item :: items) = [] := by
  simp [untilAbsent, h]

namespace Composition

/-! ## Rounds -/

/-- One round leads from one state to another. -/
def Step (before after : Composition) : Prop :=
  ∃ row outer, before.rows = row :: outer ∧ round row outer before.pieces = .ok after

/-- Some number of rounds leads from one state to another. -/
def Reaches : Composition → Composition → Prop :=
  Relation.ReflTransGen Step

theorem Reaches.of_round {row : Row} {outer : List Row} {pieces : Array Value}
    {after last : Composition} (hround : round row outer pieces = .ok after)
    (h : Reaches after last) : Reaches ⟨row :: outer, pieces⟩ last :=
  Relation.ReflTransGen.head ⟨row, outer, rfl, hround⟩ h

/-- A value without a kind is refused. -/
theorem writeItem_of_hasKind {item : Value} (h : item.hasKind = false) (below : List Row)
    (pieces : Array Value) : writeItem item below pieces = .error (item.lacks "kind") := by
  rw [writeItem, field_kind_of_hasKind h]
  rfl

/-! ## Pieces -/

/-- Pieces that make up a text of the given characters. -/
def Spells (pieces : Array Value) (chars : List Char) : Prop :=
  joinPieces pieces.toList = .ok (String.ofList chars)

theorem joinPieces_concat (pieces : List Value) (piece : Value) :
    joinPieces (pieces ++ [piece]) =
      joinPieces pieces >>= fun joined => appendPiece joined (piece, pieces.length) := by
  rw [joinPieces, joinPieces, List.zipIdx_append, List.foldlM_append]
  simp

namespace Spells

variable {pieces : Array Value} {chars : List Char}

theorem empty : Spells #[] [] := rfl

theorem push (h : Spells pieces chars) (piece : String) :
    Spells (pieces.push (text piece)) (chars ++ piece.toList) := by
  rw [Spells, Array.toList_push, joinPieces_concat, h]
  simp [bind, Except.bind, appendPiece]

theorem separate (h : Spells pieces chars) (isFirst : Bool) :
    Spells (separate isFirst pieces) (chars ++ Printer.separator isFirst) := by
  cases isFirst with
  | true =>
      rw [Printer.separator, if_pos rfl, List.append_nil]
      exact h
  | false => exact h.push " "

end Spells

/-! ## Writing nodes -/

mutual

/-- A node of a row is written as its rendering, behind a space unless it is the first. -/
theorem exists_reaches_node (tree : Node) (rest : List Value) (isFirst : Bool)
    (outer : List Row) {pieces : Array Value} {chars : List Char} (h : Spells pieces chars) :
    ∃ written, Reaches ⟨⟨node tree :: rest, isFirst⟩ :: outer, pieces⟩
        ⟨⟨rest, false⟩ :: outer, written⟩ ∧
      Spells written (chars ++ Printer.separator isFirst ++ tree.render) := by
  have hseparated := h.separate isFirst
  match tree with
  | .symbol content =>
      refine ⟨_, Reaches.of_round rfl Relation.ReflTransGen.refl, ?_⟩
      rw [Node.render]
      exact hseparated.push content
  | .string content =>
      refine ⟨_, Reaches.of_round rfl Relation.ReflTransGen.refl, ?_⟩
      rw [Node.render, ← Text.toList_quote]
      exact hseparated.push (Text.quote content)
  | .expression children =>
      obtain ⟨written, hreaches, hspells⟩ :=
        exists_reaches_children children true ⟨rest, false⟩ outer (hseparated.push "(")
      refine ⟨written, Reaches.of_round rfl hreaches, ?_⟩
      rw [Printer.owedByLevel_true] at hspells
      simpa [Node.render] using hspells

/-- A row of nodes over another row is written node by node and closed by a bracket. -/
theorem exists_reaches_children (children : List Node) (isFirst : Bool) (below : Row)
    (outer : List Row) {pieces : Array Value} {chars : List Char} (h : Spells pieces chars) :
    ∃ written, Reaches ⟨⟨children.map node, isFirst⟩ :: below :: outer, pieces⟩
        ⟨below :: outer, written⟩ ∧
      Spells written (chars ++ Printer.owedByLevel children isFirst ++ [')']) := by
  match children with
  | [] =>
      refine ⟨_, Reaches.of_round rfl Relation.ReflTransGen.refl, ?_⟩
      rw [Printer.owedByLevel, List.append_nil]
      exact h.push ")"
  | tree :: children =>
      obtain ⟨first, hfirst, hspells⟩ :=
        exists_reaches_node tree (children.map node) isFirst (below :: outer) h
      obtain ⟨written, hlater, hwritten⟩ :=
        exists_reaches_children children false below outer hspells
      refine ⟨written, hfirst.trans hlater, ?_⟩
      simpa [Printer.owedByLevel] using hwritten

end

/-! ## Inner rows -/

/-- Rows in which the first value that is no node has no kind, and of which all but the outermost
one hold nothing but nodes. -/
structure HoldNodes (rows : List Row) : Prop where
  first : ∀ row ∈ rows, FirstOtherLacksKind row.remaining
  inner : ∀ row ∈ rows.dropLast, ∀ item ∈ row.remaining, item.isNode = true

namespace HoldNodes

variable {row : Row} {outer : List Row}

theorem tail (h : HoldNodes (row :: outer)) : HoldNodes outer := by
  refine ⟨fun other hmem => h.first other (List.mem_cons_of_mem row hmem), ?_⟩
  cases outer with
  | nil => exact fun _ hmem => absurd hmem (by simp)
  | cons next outer => exact fun other hmem => h.inner other (List.mem_cons_of_mem row hmem)

/-- What remains of a row that is not the outermost one are nodes. -/
theorem head (h : HoldNodes (row :: outer)) (houter : outer ≠ []) :
    ∀ item ∈ row.remaining, item.isNode = true := by
  refine h.inner row ?_
  rw [List.dropLast_cons_of_ne_nil houter]
  exact List.mem_cons_self

/-- A row may be put over others if it holds nothing but nodes, and also in the place of a row
that held all that it holds. -/
theorem cons (h : HoldNodes outer) (hfirst : FirstOtherLacksKind row.remaining)
    (hinner : outer ≠ [] → ∀ item ∈ row.remaining, item.isNode = true) :
    HoldNodes (row :: outer) := by
  refine ⟨List.forall_mem_cons.2 ⟨hfirst, h.first⟩, ?_⟩
  cases outer with
  | nil => exact fun _ hmem => absurd hmem (by simp)
  | cons next outer =>
      rw [List.dropLast_cons_of_ne_nil (List.cons_ne_nil next outer)]
      exact List.forall_mem_cons.2 ⟨hinner (List.cons_ne_nil next outer), h.inner⟩

/-- Every round leaves it at that. Only a node can be an expression here, and its elements are
nodes. -/
theorem step {before after : Composition} (h : HoldNodes before.rows)
    (hstep : Step before after) : HoldNodes after.rows := by
  obtain ⟨⟨remaining, isFirst⟩, outer, hrows, hround⟩ := hstep
  rw [hrows] at h
  cases remaining with
  | nil =>
      cases hround
      exact h.tail
  | cons item rest =>
      cases habsent : item.isAbsent with
      | true =>
          rw [rows_of_round_absent habsent hround]
          exact h.tail
      | false =>
          have hitems := h.first _ List.mem_cons_self
          rw [round_item habsent] at hround
          rcases hitems.cons_cases with ⟨tree, rfl, hrest⟩ | ⟨-, hnone⟩
          · have hbelow : HoldNodes (⟨rest, false⟩ :: outer) :=
              h.tail.cons hrest fun houter other hmem =>
                h.head houter other (List.mem_cons_of_mem _ hmem)
            rcases writeItem_cases hround with
              hkept | ⟨hkind, content, children, hcontent, hchildren, hopened⟩
            · rw [hkept]
              exact hbelow
            · have hnodes := isNode_of_mem_elements hkind hcontent hchildren
              rw [hopened]
              exact hbelow.cons (FirstOtherLacksKind.of_nodes hnodes) fun _ => hnodes
          · rw [writeItem_of_hasKind hnone] at hround
            cases hround

end HoldNodes

end Composition

end SexpReader.Value
