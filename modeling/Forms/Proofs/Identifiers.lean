import Forms.Proofs.Tree.Edits
import Mathlib.Data.List.Nodup

/-!
# Identifiers under edits

An edit may meet a schema in which identifiers repeat already.  Insertion checks the new identifiers
against all that are there, an update compares how often each one occurs before and after, and
removal only takes away.  None of them makes an identifier occur more than once that did not before.
-/

namespace Forms

/-- No text repeats when none is seen already and none comes twice. -/
theorem firstRepeated?_eq_none_iff (seen texts : List String) :
    firstRepeated? seen texts = none ↔ texts.Nodup ∧ ∀ text ∈ texts, text ∉ seen := by
  induction texts generalizing seen with
  | nil => simp [firstRepeated?]
  | cons text texts ih =>
      rw [firstRepeated?]
      by_cases hseen : text ∈ seen
      · simp [hseen]
      · rw [if_neg hseen, ih, List.nodup_cons, List.forall_mem_cons]
        simp only [List.mem_cons, not_or]
        constructor
        · rintro ⟨hnodup, hnew⟩
          exact ⟨⟨fun hmem => (hnew text hmem).1 rfl, hnodup⟩, hseen,
            fun other hother => (hnew other hother).2⟩
        · rintro ⟨⟨hfresh, hnodup⟩, -, hnew⟩
          exact ⟨hnodup, fun other hother =>
            ⟨fun heq => hfresh (heq ▸ hother), hnew other hother⟩⟩

namespace Schema

variable {schema edited : Schema} {place : Insertion} {node : Node}

/-- Insertion adds the identifiers of the node to those of the schema. -/
theorem count_ids_insert (hedited : schema.insert place node = .ok edited) (id : String) :
    edited.ids.count id = schema.ids.count id + node.ids.count id := by
  obtain ⟨-, rfl | ⟨container, held, region, changed, hheld, hchanged, rfl⟩⟩ := insert_eq_ok hedited
  · have hids : schema.ids = (schema.nodes.take place.index).flatMap Node.ids ++
        (schema.nodes.drop place.index).flatMap Node.ids := by
      rw [ids_eq_flatMap, ← List.flatMap_append, List.take_append_drop]
    rw [hids, ids_eq_flatMap, insertAt, List.flatMap_append, List.flatMap_cons]
    simp only [List.count_append]
    omega
  · obtain ⟨before, after, hids, hchange⟩ := exists_ids_split hheld
    obtain ⟨number, edit, first, last, rfl, hchildren, hinserted⟩ :=
      Node.exists_insertInRegion_split hchanged
    rw [hchange, hids, Node.ids_eq held, Node.ids_eq, hinserted, hchildren]
    simp only [List.flatMap_append, List.flatMap_cons, List.count_append, List.count_cons]
    omega

/-- An update replaces identifiers, and the ones that become more frequent are unique afterwards. -/
theorem count_ids_update_le {id : String} {patch : Members}
    (hedited : schema.update id patch = .ok edited) (other : String) :
    edited.ids.count other ≤ max 1 (schema.ids.count other) := by
  obtain ⟨place, node, updated, hnode, -, hfresh, rfl⟩ := update_eq_ok hedited
  obtain ⟨before, after, hids, hchange⟩ := exists_ids_split hnode
  have hcount : schema.ids.count other =
      before.count other + node.ids.count other + after.count other := by
    rw [hids, List.count_append, List.count_append]
  rw [hchange, List.count_append, List.count_append]
  by_cases hmore : node.ids.count other < updated.ids.count other
  · have hmem : other ∈ updated.ids := List.count_pos_iff.mp (Nat.zero_lt_of_lt hmore)
    rw [addedDuplicate?, List.find?_eq_none] at hfresh
    have hunique := hfresh other hmem
    simp only [Bool.and_eq_true, decide_eq_true_eq, not_and, not_lt] at hunique
    have hle := hunique hmore
    omega
  · omega

/-- No edit makes an identifier occur more than once that did not before. -/
theorem count_ids_perform_le (schema : Schema) (edit : SchemaEdit) (id : String) :
    (edit.perform schema).ids.count id ≤ max 1 (schema.ids.count id) := by
  refine edit.perform_cases (motive := fun edited =>
    edited.ids.count id ≤ max 1 (schema.ids.count id)) (le_max_right _ _) fun edited hedited => ?_
  cases edit with
  | insert place node =>
      rw [count_ids_insert hedited]
      obtain ⟨hnodup, hnew⟩ := (firstRepeated?_eq_none_iff _ _).mp (insert_eq_ok hedited).1
      by_cases hmem : id ∈ node.ids
      · rw [List.count_eq_zero.mpr (hnew id hmem)]
        have hunique := List.nodup_iff_count_le_one.mp hnodup id
        omega
      · rw [List.count_eq_zero.mpr hmem]
        exact le_max_right _ _
  | update target patch => exact count_ids_update_le hedited id
  | remove target =>
      obtain ⟨⟨removed, rest⟩, hremoved, rfl⟩ := Outcome.map_eq_ok_iff.mp hedited
      obtain ⟨place, -, hfound, rfl⟩ := remove_eq_ok hremoved
      exact ((ids_eraseAt_sublist hfound).count_le id).trans (le_max_right _ _)

theorem count_ids_performAll (schema : Schema) (edits : List SchemaEdit) (id : String) :
    (SchemaEdit.performAll schema edits).ids.count id ≤ max 1 (schema.ids.count id) := by
  induction edits generalizing schema with
  | nil => exact le_max_right _ _
  | cons edit edits ih =>
      calc
        (SchemaEdit.performAll (edit.perform schema) edits).ids.count id ≤
            max 1 ((edit.perform schema).ids.count id) := ih (edit.perform schema)
        _ ≤ max 1 (schema.ids.count id) :=
          max_le (le_max_left _ _) (count_ids_perform_le schema edit id)

/-- Whatever edits are made, and whether they succeed or fail, no identifier occurs more often than
once or than it did at the start; distinct identifiers stay distinct. -/
theorem ids_performAll (schema : Schema) (edits : List SchemaEdit) :
    (∀ id, (SchemaEdit.performAll schema edits).ids.count id ≤ max 1 (schema.ids.count id)) ∧
      (schema.ids.Nodup → (SchemaEdit.performAll schema edits).ids.Nodup) := by
  refine ⟨count_ids_performAll schema edits, fun hnodup => ?_⟩
  rw [List.nodup_iff_count_le_one] at hnodup ⊢
  intro id
  calc
    (SchemaEdit.performAll schema edits).ids.count id ≤ max 1 (schema.ids.count id) :=
      count_ids_performAll schema edits id
    _ ≤ 1 := max_le le_rfl (hnodup id)

/-- A node that holds nothing. -/
def blip (id : NonBlank) : Node := ⟨id, none, none, none, none, .unknown "blip" []⟩

theorem ids_performAll_blips :
    (ofNodes [blip ⟨"a", by decide⟩]).ids.Nodup ∧
      (SchemaEdit.performAll (ofNodes [blip ⟨"a", by decide⟩])
        [.insert (.root 0) (blip ⟨"b", by decide⟩), .insert (.root 0) (blip ⟨"a", by decide⟩),
          .update "b" [("type", .string "text")]]).ids.Nodup :=
  have hnodup : (ofNodes [blip ⟨"a", by decide⟩]).ids.Nodup := by decide
  ⟨hnodup, (ids_performAll _ _).2 hnodup⟩

end Schema

end Forms
