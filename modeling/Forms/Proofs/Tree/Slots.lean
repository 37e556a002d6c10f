import Forms.Node.Address
import Mathlib.Data.List.Infix

/-!
# Slots of a node

The children of a node are what its slots hold, in order.  Editing a slot changes what stands in
that one and leaves the others, so every edit of a node is an edit at one place in the list of its
children.
-/

namespace Forms

variable {Child Result : Type}

/-- A list taken apart at one of its positions, before and after a change there. -/
theorem exists_modify_split {items : List Child} {position : Nat} {item : Child}
    (hitem : items[position]? = some item) :
    ∃ before after, items = before ++ item :: after ∧
      ∀ change, items.modify position change = before ++ change item :: after := by
  obtain ⟨hposition, rfl⟩ := List.getElem?_eq_some_iff.mp hitem
  refine ⟨items.take position, items.drop (position + 1), ?_, fun change => ?_⟩
  · rw [List.getElem_cons_drop, List.take_append_drop]
  · exact List.modify_eq_take_cons_drop hposition

/-- A change at one position is seen there by whatever looks at each item. -/
theorem map_modify {f : Child → Result} {change : Child → Child} {changed : Result → Result}
    (hchange : ∀ item, f (change item) = changed (f item)) (items : List Child) (position : Nat) :
    (items.modify position change).map f = (items.map f).modify position changed := by
  induction items generalizing position with
  | nil => simp
  | cons item items ih => cases position <;> simp [hchange, ih]

/-- A change that cannot be seen in any item cannot be seen in the list. -/
theorem map_modify_eq_map {f : Child → Result} {change : Child → Child}
    (hchange : ∀ item, f (change item) = f item) (items : List Child) (position : Nat) :
    (items.modify position change).map f = items.map f := by
  exact (map_modify hchange items position).trans (List.modify_id ..)

/-! ## Editing a slot -/

namespace SlotContent

def edit (edit : SlotEdit Child) : SlotContent Child → SlotContent Child
  | .sequence nodes => .sequence (edit.sequence nodes)
  | .optional node => .optional (edit.optional node)
  | .required node => .required (edit.required node)

/-- Changing the child at a position of a slot changes it in the list of what the slot holds. -/
theorem toList_edit_modify {content : SlotContent Child} {position : Nat} {child : Child}
    (hchild : content.toList[position]? = some child) (change : Child → Child) :
    (content.edit ⟨fun nodes => nodes.modify position change, Option.map change, change⟩).toList =
      content.toList.modify position change := by
  cases content with
  | sequence nodes => rfl
  | optional node =>
      cases node with
      | none => simp [toList] at hchild
      | some node => cases position <;> simp_all [toList, edit]
  | required node => cases position <;> simp_all [toList, edit]

/-- Erasing the child at a position leaves a part of what the slot holds. -/
theorem toList_edit_erase_sublist (content : SlotContent Child) (position : Nat) :
    (content.edit ⟨fun nodes => nodes.eraseIdx position, fun _ => none, fun child => child⟩).toList
      |>.Sublist content.toList := by
  cases content with
  | sequence nodes => exact List.eraseIdx_sublist nodes position
  | optional node => exact List.nil_sublist _
  | required node => exact List.Sublist.refl _

end SlotContent

def Slot.edit (edit : SlotEdit Child) (slot : Slot Child) : Slot Child :=
  { slot with content := slot.content.edit edit }

namespace Layout

theorem slots_editSlot (layout : Layout Child) (number : Nat) (edit : SlotEdit Child) :
    (layout.editSlot number edit).slots = layout.slots.modify number (Slot.edit edit) := by
  have hsections {Extras : Type} (scope : String) (sections : List (Section Extras Child)) :
      (sections.modify number (·.edit edit.sequence)).map (·.slot scope) =
        (sections.map (·.slot scope)).modify number (Slot.edit edit) := by
    apply map_modify
    exact fun _ => rfl
  cases layout with
  | tabs | stepper | accordion => exact hsections _ _
  | card | modal | grid | tooltip =>
      rcases number with _ | _ | _ | number
      all_goals simp [editSlot, slots, Slot.edit, SlotContent.edit]

/-- The regions that are shown hold what the slots hold. -/
theorem children_eq_flatMap_slots (layout : Layout Child) :
    layout.children = layout.slots.flatMap fun slot => slot.content.toList := by
  cases layout with
  | tabs | stepper | accordion =>
      simp [children, regions, slots, List.flatMap_map, Section.region, Section.slot,
        SlotContent.toList]
  | card header content footer variant =>
      cases header <;> cases footer <;>
        simp [children, regions, slots, filledRegion, SlotContent.toList]
  | modal | grid | tooltip => simp [children, regions, slots, SlotContent.toList]

theorem children_map (f : Child → Result) (layout : Layout Child) :
    (layout.map f).children = layout.children.map f := by
  cases layout with
  | tabs | stepper | accordion =>
      simp [children, regions, map, List.flatMap_map, List.map_flatMap, Section.region, Section.map]
  | card header content footer variant =>
      cases header <;> cases footer <;> simp [children, regions, map, filledRegion]
  | modal | grid | tooltip => simp [children, regions, map]

end Layout

namespace Body

@[simp]
theorem children_map (f : Child → Result) (body : Body Child) :
    (body.map f).children = body.children.map f := by
  cases body with
  | container layout => exact layout.children_map f
  | field | display | unknown => rfl

theorem slots_editSlot (body : Body Child) (number : Nat) (edit : SlotEdit Child) :
    (body.editSlot number edit).slots = body.slots.modify number (Slot.edit edit) := by
  cases body with
  | container layout => exact layout.slots_editSlot number edit
  | field | display | unknown => simp [editSlot, slots]

theorem children_eq_flatMap_slots (body : Body Child) :
    body.children = body.slots.flatMap fun slot => slot.content.toList := by
  cases body with
  | container layout => exact layout.children_eq_flatMap_slots
  | field | display | unknown => rfl

/-- One slot taken out of the children, before and after edits of it. -/
theorem exists_children_split {body : Body Child} {number : Nat} {slot : Slot Child}
    (hslot : body.slots[number]? = some slot) :
    ∃ before after, body.children = before ++ slot.content.toList ++ after ∧
      ∀ edit, (body.editSlot number edit).children =
        before ++ (slot.content.edit edit).toList ++ after := by
  obtain ⟨before, after, hslots, hmodify⟩ := exists_modify_split hslot
  refine ⟨before.flatMap fun slot => slot.content.toList,
    after.flatMap fun slot => slot.content.toList, ?_, fun edit => ?_⟩
  · rw [children_eq_flatMap_slots, hslots, List.flatMap_append, List.flatMap_cons,
      List.append_assoc]
  · rw [children_eq_flatMap_slots, slots_editSlot, hmodify, List.flatMap_append, List.flatMap_cons,
      List.append_assoc]
    rfl

/-- A child taken out of the children, before and after a change of it. -/
theorem exists_modifyChild_split {body : Body Child} {step : Step} {child : Child}
    (hchild : body.child? step = some child) :
    ∃ before after, body.children = before ++ child :: after ∧
      ∀ change, (body.modifyChild step change).children = before ++ change child :: after := by
  simp only [child?] at hchild
  split at hchild
  · rename_i slot hslot
    obtain ⟨before, after, hchildren, hedit⟩ := exists_children_split hslot
    obtain ⟨first, last, hheld, hmodify⟩ := exists_modify_split hchild
    refine ⟨before ++ first, last ++ after, ?_, fun change => ?_⟩
    · rw [hchildren, hheld]
      simp only [List.append_assoc, List.cons_append]
    · rw [modifyChild, hedit, SlotContent.toList_edit_modify hchild, hmodify]
      simp only [List.append_assoc, List.cons_append]
  · cases hchild

theorem mem_children_of_child? {body : Body Child} {step : Step} {child : Child}
    (hchild : body.child? step = some child) : child ∈ body.children := by
  obtain ⟨before, after, hchildren, -⟩ := exists_modifyChild_split hchild
  exact hchildren ▸ List.mem_append_right _ List.mem_cons_self

/-- Erasing a child leaves a part of the children. -/
theorem children_eraseChild_sublist (body : Body Child) (step : Step) :
    (body.eraseChild step).children.Sublist body.children := by
  cases hslot : body.slots[step.slot]? with
  | some slot =>
      obtain ⟨before, after, hchildren, hedit⟩ := exists_children_split hslot
      rw [hchildren, eraseChild, hedit]
      exact ((slot.content.toList_edit_erase_sublist _).append_left before).append_right after
  | none =>
      have hslots : (body.eraseChild step).slots = body.slots := by
        rw [eraseChild, slots_editSlot, List.modify_eq_self (List.getElem?_eq_none_iff.mp hslot)]
      rw [children_eq_flatMap_slots, children_eq_flatMap_slots, hslots]

end Body

end Forms
