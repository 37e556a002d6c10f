import Forms.Proofs.Removing

/-!
# Undoing an insertion

A node that was just inserted has an identifier that occurs once, and it stands among the roots or in
a sequence.  So removing finds it there and nowhere else, and what is left of the sequence is what
the sequence was.
-/

namespace Forms

section Sequences

variable {α : Type} (index : Nat) (item : α) (items : List α)

theorem getElem?_insertAt_self :
    (insertAt index item items)[min index items.length]? = some item := by
  rw [insertAt_eq_insertIdx, List.getElem?_insertIdx_self, if_pos (Nat.min_le_right ..)]

theorem eraseIdx_insertAt_self :
    (insertAt index item items).eraseIdx (min index items.length) = items := by
  rw [insertAt_eq_insertIdx, List.eraseIdx_insertIdx_self]

end Sequences

namespace Node

theorem insertInRegion_eq_ok {node child edited : Node} {region : String} {index : Nat}
    (hedited : node.insertInRegion region index child = .ok edited) :
    ∃ number nodes, node.body.slots[number]? = some ⟨region, .sequence nodes⟩ ∧
      edited = node.editSlot number (.inserting index child) := by
  by_cases hregion : region ∈ node.body.regionKeys
  · by_cases hsingle : region ∈ node.body.singleKeys
    · rw [insertInRegion_of_single index child hregion hsingle] at hedited
      cases hedited
    · obtain ⟨number, nodes, -, hslot, heq⟩ :=
        exists_insertInRegion_eq_ok index child hregion hsingle
      exact ⟨number, nodes, hslot, Except.ok.inj (hedited.symm.trans heq)⟩
  · rw [insertInRegion_of_notMem index child hregion] at hedited
    cases hedited

variable {node : Node} {number : Nat} {key : String} {nodes : List Node}

theorem slots_editSlot_inserting (hslot : node.body.slots[number]? = some ⟨key, .sequence nodes⟩)
    (index : Nat) (child : Node) :
    (node.editSlot number (.inserting index child)).body.slots[number]? =
      some ⟨key, .sequence (insertAt index child nodes)⟩ := by
  rw [editSlot, Body.slots_editSlot, List.getElem?_modify_eq, hslot]
  rfl

/-- Erasing the member that was inserted into a slot. -/
theorem editSlot_erasing_inserting (hslot : node.body.slots[number]? = some ⟨key, .sequence nodes⟩)
    (index : Nat) (child : Node) :
    (node.editSlot number (.inserting index child)).editSlot number
      (.erasing (min index nodes.length)) = node := by
  have hbody : (node.body.editSlot number (.inserting index child)).editSlot number
      (.erasing (min index nodes.length)) = node.body := by
    rw [Body.editSlot_editSlot]
    apply Body.editSlot_eq_self
    rw [hslot]
    rintro _ ⟨⟩
    exact congrArg SlotContent.sequence (eraseIdx_insertAt_self index child nodes)
  rw [editSlot, editSlot, hbody]
  cases node
  rfl

end Node

namespace Schema

variable {schema edited : Schema} {place : Insertion} {node : Node}

theorem count_ids_inserted_le_one (hedited : schema.insert place node = .ok edited) :
    edited.ids.count node.id.text ≤ 1 := by
  obtain ⟨hnodup, hfresh⟩ := (firstRepeated?_eq_none_iff _ _).mp (insert_eq_ok hedited).1
  have hself : node.id.text ∈ node.ids := by
    rw [Node.ids_eq]
    exact List.mem_cons_self
  rw [count_ids_insert hedited, List.count_eq_zero.mpr (hfresh _ hself), Nat.zero_add]
  exact List.nodup_iff_count_le_one.mp hnodup _

/-- A node that was inserted stands where removing may take it, and erasing it there gives the schema
back. -/
theorem exists_place_of_insert (hedited : schema.insert place node = .ok edited) :
    ∃ inserted, edited.at? inserted = some node ∧
      (∀ slot ∈ edited.slotAt? inserted, ¬slot.content.IsRequired) ∧
      edited.eraseAt inserted = schema := by
  obtain ⟨-, rfl | ⟨⟨root, above⟩, held, region, changed, hheld, hchanged, rfl⟩⟩ :=
    insert_eq_ok hedited
  · have hroot := getElem?_insertAt_self place.index node schema.nodes
    refine ⟨⟨min place.index schema.nodes.length, []⟩, ?_, ?_, ?_⟩
    · rw [at?, hroot]
      rfl
    · simp [slotAt?, hroot, Node.slotAt?]
    · rw [eraseAt, eraseIdx_insertAt_self]
  · obtain ⟨number, nodes, hslot, rfl⟩ := Node.insertInRegion_eq_ok hchanged
    rw [modifyAt_const hheld]
    have hholder := at?_modifyAt hheld (Node.editSlot number (.inserting place.index node))
    have hinserted := Node.slots_editSlot_inserting hslot place.index node
    refine ⟨⟨root, above ++ [⟨number, min place.index nodes.length⟩]⟩, ?_, ?_, ?_⟩
    · have hchild : (held.editSlot number (.inserting place.index node)).body.child?
          ⟨number, min place.index nodes.length⟩ = some node :=
        Body.child?_eq_some_iff.mpr ⟨_, hinserted, getElem?_insertAt_self place.index node nodes⟩
      rw [at?_below hholder, Node.at?, hchild]
      rfl
    · rw [slotAt?_below hholder, hinserted]
      rintro _ ⟨⟩
      exact not_false
    · rw [eraseAt_below, modifyAt_modifyAt]
      exact modifyAt_eq_self hheld (Node.editSlot_erasing_inserting hslot place.index node)

/-- Removing a node right after it was inserted gives the node and the schema as they were before,
whatever identifiers repeat there. -/
theorem remove_insert (hedited : schema.insert place node = .ok edited) :
    edited.remove node.id.text = .ok (node, schema) := by
  obtain ⟨inserted, htarget, hfree, herased⟩ := exists_place_of_insert hedited
  rw [remove_of_at? htarget (count_ids_inserted_le_one hedited) hfree, herased]

theorem remove_insert_dialog :
    ∃ edited, dialog.insert (.inRegion "dialog" "content" 7) (blip ⟨"more", by decide⟩) = .ok edited ∧
      edited.remove "more" = .ok (blip ⟨"more", by decide⟩, dialog) := by
  obtain ⟨edited, hedited⟩ : ∃ edited,
      dialog.insert (.inRegion "dialog" "content" 7) (blip ⟨"more", by decide⟩) = .ok edited :=
    ⟨_, rfl⟩
  exact ⟨edited, hedited, remove_insert hedited⟩

end Schema

end Forms
