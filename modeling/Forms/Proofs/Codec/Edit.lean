import Forms.Proofs.Codec.Node
import Forms.Proofs.Tree.Splice
import Forms.Schema.Edit

/-!
# Edits of normal nodes

A node stays normal when a descendant is replaced by a normal node, when one is taken out, and when
a normal node is put into one of its regions.  A patch is read like anything else, so what it leaves
is normal whatever it holds.
-/

namespace Forms

variable {Child : Type}

/-- Being normal says nothing about the children of a body. -/
theorem Body.IsNormal.editSlot {body : Body Child} (h : body.IsNormal) (number : Nat)
    (edit : SlotEdit Child) : (body.editSlot number edit).IsNormal := by
  cases body with
  | container layout =>
      cases layout with
      | tabs | stepper | accordion => exact True.intro
      | card | modal | tooltip => rcases number with _ | _ | _ | number <;> exact True.intro
      | grid => cases number <;> exact h
  | field | display | unknown => exact h

namespace Node.IsNormal

variable {node : Node}

theorem body (h : node.IsNormal) : node.body.IsNormal := by
  cases h with
  | mk _ _ _ _ hbody _ => exact hbody

theorem children (h : node.IsNormal) : ∀ child ∈ node.body.children, child.IsNormal := by
  cases h with
  | mk _ _ _ _ _ hchildren => exact hchildren

/-- A node with another body is normal when that body and its children are. -/
theorem withBody (h : node.IsNormal) {body : Body Node} (hbody : body.IsNormal)
    (hchildren : ∀ child ∈ body.children, child.IsNormal) :
    ({ node with body } : Node).IsNormal := by
  cases h with
  | mk hvisible hstyle hclass hconfig _ _ =>
      exact .mk hvisible hstyle hclass hconfig hbody hchildren

/-- Every descendant of a normal node is normal. -/
theorem at? {address : Address} {target : Node} (h : node.IsNormal)
    (htarget : node.at? address = some target) : target.IsNormal := by
  induction address generalizing node with
  | nil =>
      cases htarget
      exact h
  | cons step address ih =>
      obtain ⟨child, hchild, hinside⟩ := Option.bind_eq_some_iff.mp htarget
      exact ih (h.children child (Body.mem_children_of_child? hchild)) hinside

theorem modifyAt {address : Address} {target : Node} (h : node.IsNormal)
    (htarget : node.at? address = some target) {change : Node → Node}
    (hchange : (change target).IsNormal) : (node.modifyAt change address).IsNormal := by
  induction address generalizing node with
  | nil =>
      cases htarget
      exact hchange
  | cons step address ih =>
      obtain ⟨child, hchild, hinside⟩ := Option.bind_eq_some_iff.mp htarget
      obtain ⟨before, after, hchildren, hmodify⟩ := Body.exists_modifyChild_split hchild
      have hothers := h.children
      rw [hchildren, List.forall_mem_append, List.forall_mem_cons] at hothers
      obtain ⟨hbefore, hhere, hafter⟩ := hothers
      apply h.withBody (h.body.editSlot _ _)
      change ∀ held ∈ (node.body.modifyChild step (Node.modifyAt change address)).children, _
      rw [hmodify, List.forall_mem_append, List.forall_mem_cons]
      exact ⟨hbefore, ih hhere hinside, hafter⟩

theorem eraseAt {address : Address} {target : Node} (h : node.IsNormal)
    (htarget : node.at? address = some target) : (node.eraseAt address).IsNormal := by
  induction address generalizing node with
  | nil => exact h
  | cons step address ih =>
      obtain ⟨child, hchild, hinside⟩ := Option.bind_eq_some_iff.mp htarget
      cases address with
      | nil =>
          apply h.withBody (h.body.editSlot _ _)
          intro held hheld
          exact h.children held ((node.body.children_eraseChild_sublist step).subset hheld)
      | cons next address =>
          have hbelow := ih (h.children child (Body.mem_children_of_child? hchild)) hinside
          have hstep : node.at? [step] = some child := by simp [Node.at?, hchild]
          exact h.modifyAt hstep hbelow

theorem insertInRegion {child edited : Node} {region : String} {index : Nat} (h : node.IsNormal)
    (hchild : child.IsNormal) (hedited : node.insertInRegion region index child = .ok edited) :
    edited.IsNormal := by
  obtain ⟨number, edit, before, after, rfl, hchildren, hinserted⟩ :=
    Node.exists_insertInRegion_split hedited
  apply h.withBody (h.body.editSlot _ _)
  have hothers := h.children
  rw [hchildren, List.forall_mem_append] at hothers
  rw [hinserted, List.forall_mem_append, List.forall_mem_cons]
  exact ⟨hothers.1, hchild, hothers.2⟩

end Node.IsNormal

theorem Decode.fromValue_ensures {α : Type} {decoder : Decoder α} {property : α → Prop}
    (h : decoder.Ensures property) {value : Json} {result : α}
    (hresult : Decode.fromValue decoder value = .ok result) : property result :=
  h .value value result (Outcome.mapError_eq_ok_iff.mp hresult)

/-- Whatever a patch holds, the patched node is normal. -/
theorem Node.isNormal_of_patched {node updated : Node} {patch : Members}
    (hupdated : node.patched patch = .ok updated) : updated.IsNormal := by
  simp only [patched] at hupdated
  split at hupdated
  · split at hupdated
    · exact Decode.fromValue_ensures decode_ensures hupdated
    · cases hupdated
  · exact Decode.fromValue_ensures decode_ensures hupdated

end Forms
