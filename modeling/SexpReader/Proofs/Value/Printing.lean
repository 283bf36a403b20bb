/-
# Printing sequences of anything

The source printer looks at the values up to the first absent one only, whatever they are. Where
the first value that is no node has no kind, both printers refuse it as soon as they come across
it. On such sequences without an absent value they accept the same and fail in the same way, as far
as the recursion of the data printer has room for the trees.
-/

import SexpReader.Proofs.Node.Depth
import SexpReader.Proofs.Value.Composition
import SexpReader.Value.Reading

namespace SexpReader.Value

/-! ## Nodes and other values -/

theorem FirstOtherLacksKind.untilAbsent {items : List Value} (h : FirstOtherLacksKind items) :
    FirstOtherLacksKind (untilAbsent items) := by
  induction items with
  | nil => exact h
  | cons item items ih =>
      rcases h.cons_cases with ⟨tree, rfl, hitems⟩ | ⟨hother, hnone⟩
      · exact ih hitems
      · cases habsent : item.isAbsent with
        | true =>
            rw [untilAbsent_cons_of_isAbsent habsent]
            exact of_nodes (by simp)
        | false =>
            rw [untilAbsent_cons habsent]
            intro other hfirst
            rw [firstOther?_cons_of_not_isNode hother] at hfirst
            obtain rfl := Option.some.inj hfirst
            exact hnone

mutual

/-- With room for its brackets and one more call, a node becomes its data. -/
theorem itemData_node {room : Nat} (tree : Node) (h : tree.nesting < room) :
    itemData room (node tree) = .ok (ofData tree.toData) := by
  match room, tree with
  | room + 1, .symbol _ | room + 1, .string _ => rfl
  | room + 1, .expression children =>
      rw [Node.nesting] at h
      have hchildren := @mapM_itemData_node room children (by omega)
      show ((children.map node).mapM (itemData room) >>= fun items => .ok (list items)) = _
      rw [hchildren]
      rfl

/-- The nodes of a sequence become their data. -/
theorem mapM_itemData_node {room : Nat} (nodes : List Node) (h : Node.nestingAll nodes < room) :
    (nodes.map node).mapM (itemData room) = .ok (ofDataList (toData nodes)) := by
  match nodes with
  | [] => rfl
  | tree :: nodes =>
      rw [Node.nestingAll] at h
      rw [List.map_cons, List.mapM_cons, itemData_node tree (by omega),
        mapM_itemData_node nodes (by omega)]
      rfl

end

end SexpReader.Value
