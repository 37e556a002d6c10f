import Forms.Proofs.Tree.Bare
import Forms.Schema.Edit
import Mathlib.Data.List.Flatten

/-!
# Splicing trees

The walk of a node is the node followed by the walks of its children, so the identifiers inside a
descendant stand in one stretch of the identifiers of the whole.  An edit at an address replaces
that stretch and moves nothing else.
-/

namespace Forms

namespace Node

theorem ids_eq (node : Node) : node.ids = node.id.text :: node.body.children.flatMap ids := by
  rw [ids, walk_eq, List.map_cons, List.map_flatMap]
  rfl

/-- Erasing a descendant leaves a part of the identifiers. -/
theorem ids_eraseAt_sublist {address : Address} {node target : Node}
    (htarget : node.at? address = some target) :
    (node.eraseAt address).ids.Sublist node.ids := by
  induction address generalizing node with
  | nil => exact List.Sublist.refl _
  | cons step address ih =>
      obtain ⟨child, hchild, hinside⟩ := Option.bind_eq_some_iff.mp htarget
      cases address with
      | nil =>
          rw [eraseAt, ids_eq, ids_eq node]
          exact ((node.body.children_eraseChild_sublist step).flatMap ids).cons_cons _
      | cons next address =>
          obtain ⟨first, last, hchildren, hmodify⟩ := Body.exists_modifyChild_split hchild
          change ({ node with
            body := node.body.modifyChild step (eraseAt (next :: address)) } : Node).ids.Sublist _
          rw [ids_eq, ids_eq node, hmodify, hchildren, List.flatMap_append, List.flatMap_append,
            List.flatMap_cons, List.flatMap_cons]
          exact (((ih hinside).append_right _).append_left _).cons_cons _

/-- A child that is inserted stands between the children that were there. -/
theorem exists_insertInRegion_split {node child edited : Node} {region : String} {index : Nat}
    (hedited : node.insertInRegion region index child = .ok edited) :
    ∃ number edit before after, edited = { node with body := node.body.editSlot number edit } ∧
      node.body.children = before ++ after ∧
      (node.body.editSlot number edit).children = before ++ child :: after := by
  simp only [insertInRegion] at hedited
  split at hedited
  · cases hedited
  · rename_i number _
    split at hedited
    · rename_i nodes hcontent
      cases hedited
      obtain ⟨slot, hslot, hsequence⟩ := Option.map_eq_some_iff.mp hcontent
      obtain ⟨before, after, hchildren, hedit⟩ := Body.exists_children_split hslot
      refine ⟨number, _, before ++ nodes.take index, nodes.drop index ++ after, rfl, ?_, ?_⟩
      · rw [hchildren, hsequence, List.append_assoc, List.append_assoc,
          ← List.append_assoc (nodes.take index), List.take_append_drop]
        rfl
      · rw [hedit, hsequence]
        simp [SlotContent.edit, SlotContent.toList, insertAt]
    · cases hedited

end Node

end Forms
