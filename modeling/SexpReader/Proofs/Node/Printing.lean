/-
# Printing and rendering

The printer writes over a stack of levels what the rendering defines on the tree. The
invariant is an account of what a stack still owes: the rest of each level, and a closing
bracket behind every level but the outermost one.
-/

import Mathlib.Logic.ExistsUnique
import SexpReader.Node.Printer
import SexpReader.Proofs.Text.Quoting

namespace SexpReader

namespace Printer

@[simp]
theorem join_push (pieces : Array String) (piece : String) :
    join (pieces.push piece) = join pieces ++ piece :=
  Array.foldl_push

/-- The characters in front of the next node of a level. -/
def separator (isFirst : Bool) : List Char :=
  if isFirst then [] else [' ']

theorem toList_join_separate (isFirst : Bool) (pieces : Array String) :
    (join (separate isFirst pieces)).toList = (join pieces).toList ++ separator isFirst := by
  cases isFirst with
  | true => exact (List.append_nil _).symm
  | false => simp [separate, separator]

/-- What a level still owes. -/
def owedByLevel : List Node → Bool → List Char
  | [], _ => []
  | node :: rest, isFirst => separator isFirst ++ node.render ++ owedByLevel rest false

/-- What a stack of levels still owes. -/
def owed : List Level → List Char
  | [] => []
  | level :: outer =>
      owedByLevel level.remaining level.isFirst ++
        if outer.isEmpty then [] else ')' :: owed outer

theorem owedByLevel_true (nodes : List Node) : owedByLevel nodes true = renderAll nodes := by
  induction nodes with
  | nil => rfl
  | cons node rest ih =>
      cases rest with
      | nil => simp [owedByLevel, separator, renderAll]
      | cons next rest =>
          rw [renderAll, ← ih]
          simp [owedByLevel, separator]

/-- Writing adds what is owed. -/
theorem toList_join_write (levels : List Level) (pieces : Array String) :
    (join (write levels pieces)).toList = (join pieces).toList ++ owed levels := by
  fun_induction write levels pieces with
  | case1 pieces => exact (List.append_nil _).symm
  | case2 isFirst outer pieces ih =>
      rw [dite_eq_ite] at ih
      rw [ih]
      cases outer with
      | nil => simp [owed, owedByLevel]
      | cons level outer => simp [owed, owedByLevel]
  | case3 text rest isFirst outer pieces ih =>
      rw [ih, join_push, String.toList_append, toList_join_separate]
      simp [owed, owedByLevel, Node.render]
  | case4 text rest isFirst outer pieces ih =>
      rw [ih, join_push, String.toList_append, toList_join_separate, Text.toList_quote]
      simp [owed, owedByLevel, Node.render]
  | case5 children rest isFirst outer pieces ih =>
      rw [ih, join_push, String.toList_append, toList_join_separate]
      simp [owed, owedByLevel, owedByLevel_true, Node.render]

end Printer

/-- The canonical text is the rendering of the program. -/
theorem toList_toSource (program : Program) : (toSource program).toList = renderAll program := by
  rw [toSource, Printer.toList_join_write]
  simp [Printer.join, Printer.owed, Printer.owedByLevel_true]

/-- The rule by which nodes are rendered, with the children of an expression joined by one
space. -/
structure IsRendering (render : Node → List Char) : Prop where
  symbol (text : String) : render (.symbol text) = text.toList
  string (text : String) :
    render (.string text) = '"' :: text.toList.flatMap Text.escapeChar ++ ['"']
  expression (children : List Node) :
    render (.expression children) = '(' :: [' '].intercalate (children.map render) ++ [')']

theorem renderAll_eq_intercalate (nodes : List Node) :
    renderAll nodes = [' '].intercalate (nodes.map Node.render) := by
  induction nodes with
  | nil => rfl
  | cons node rest ih =>
      cases rest with
      | nil => simp [renderAll]
      | cons next rest =>
          rw [renderAll, ih]
          simp [List.intercalate_cons_cons]

theorem Node.isRendering_render : IsRendering Node.render where
  symbol text := by rw [Node.render]
  string text := by rw [Node.render]
  expression children := by rw [Node.render, renderAll_eq_intercalate]

mutual

/-- No other function follows the rule. -/
theorem IsRendering.eq_render {render : Node → List Char} (h : IsRendering render)
    (node : Node) : render node = node.render := by
  match node with
  | .symbol text => rw [h.symbol, Node.render]
  | .string text => rw [h.string, Node.render]
  | .expression children =>
      rw [h.expression, h.map_eq_map_render children, Node.render, renderAll_eq_intercalate]

theorem IsRendering.map_eq_map_render {render : Node → List Char} (h : IsRendering render)
    (nodes : List Node) : nodes.map render = nodes.map Node.render := by
  match nodes with
  | [] => rfl
  | node :: nodes =>
      rw [List.map_cons, List.map_cons, h.eq_render node, h.map_eq_map_render nodes]

end

/-- The rule of rendering defines exactly one function by recursion on nodes, and what is
written over a stack of levels is what this function gives for the nodes of a program, joined
by one space. -/
theorem toSource_eq_intercalate (program : Program) :
    (∃! render : Node → List Char, IsRendering render) ∧
      ∀ render, IsRendering render →
        (toSource program).toList = [' '].intercalate (program.map render) := by
  constructor
  · refine ⟨Node.render, Node.isRendering_render, ?_⟩
    intro render hrule
    funext node
    exact hrule.eq_render node
  · intro render hrule
    rw [toList_toSource, renderAll_eq_intercalate, hrule.map_eq_map_render]

/-- An expression that begins with the empty symbol, a string of a quote and a backslash, and
a symbol with a space. -/
theorem toSource_eq_intercalate_of_empty_symbol :
    IsRendering Node.render ∧
      (toSource [.expression [.symbol "", .string "\"\\", .expression []], .symbol "a b"]).toList =
        "( \"\\\"\\\\\" ()) a b".toList := by
  obtain ⟨-, hwritten⟩ := toSource_eq_intercalate
    [.expression [.symbol "", .string "\"\\", .expression []], .symbol "a b"]
  refine ⟨Node.isRendering_render, ?_⟩
  rw [hwritten Node.render Node.isRendering_render]
  rfl

end SexpReader
