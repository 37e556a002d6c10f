import Forms.Proofs.Codec.Members
import Forms.Proofs.Lossless
import Forms.Proofs.Tree.Frame

/-!
# Updating a node

A patch is written over the members of a node, and the node is read again.  As no member decides how
another one is read but the tag, whatever the patch does not name is written afterwards as it was
before.  The node stays where it is, and everything around and beside it stays as it is.
-/

namespace Forms

namespace Node

variable {node updated : Node} {patch : Members}

theorem patched_eq_ok (hupdated : node.patched patch = .ok updated) :
    (∀ value ∈ patch.get? "id", value = .string node.id.text) ∧
      decode .value (.object (node.members.merge patch)) = .ok updated := by
  simp only [patched] at hupdated
  split at hupdated
  · rename_i id hid
    split at hupdated
    · rename_i hsame
      refine ⟨?_, Outcome.mapError_eq_ok_iff.mp hupdated⟩
      rw [hid]
      rintro _ ⟨⟩
      exact hsame
    · cases hupdated
  · rename_i hid
    refine ⟨?_, Outcome.mapError_eq_ok_iff.mp hupdated⟩
    simp [hid]

theorem get?_merge_members (node : Node) (hpatch : patch.Ascending) (key : String) :
    (node.members.merge patch).get? key = (patch.get? key).or (node.members.get? key) := by
  rw [Entries.get?_merge, hpatch.ofWrites_eq]

/-- A patch that is not refused repeats the identifier or leaves it out. -/
theorem IsNormal.get?_merge_members_id (h : node.IsNormal) (hpatch : patch.Ascending)
    (hid : ∀ value ∈ patch.get? "id", value = .string node.id.text) :
    (node.members.merge patch).get? "id" = node.members.get? "id" := by
  rw [get?_merge_members node hpatch]
  cases hvalue : patch.get? "id" with
  | none => exact Option.none_or ..
  | some value => rw [Option.some_or, hid value hvalue, h.get?_members_id]

theorem IsNormal.id_of_patched (h : node.IsNormal) (hpatch : patch.Ascending)
    (hupdated : node.patched patch = .ok updated) : updated.id = node.id := by
  obtain ⟨hid, hread⟩ := patched_eq_ok hupdated
  have hmerged := Entries.ascending_merge node.ascending_members patch
  exact id_of_reads hread (h.decode_members .value) hmerged.nodup_keys
    node.ascending_members.nodup_keys (h.get?_merge_members_id hpatch hid)

/-- A patch changes only the members that it names; the identifier and the tag are kept. -/
theorem IsNormal.members_of_patched (h : node.IsNormal) (hpatch : patch.Ascending)
    (htag : patch.get? "tag" = none) (hupdated : node.patched patch = .ok updated) :
    updated.id = node.id ∧ updated.tag = node.tag ∧
      ∀ key, patch.get? key = none → updated.members.get? key = node.members.get? key := by
  have hkept (key : String) (hkey : patch.get? key = none) :
      (node.members.merge patch).get? key = node.members.get? key := by
    rw [get?_merge_members node hpatch, hkey, Option.none_or]
  obtain ⟨htags, hmembers⟩ := h.members_of_read
    (Entries.ascending_merge node.ascending_members patch) (patched_eq_ok hupdated).2
    (hkept "tag" htag)
  exact ⟨h.id_of_patched hpatch hupdated, htags, fun key hkey => hmembers key (hkept key hkey)⟩

end Node

namespace Schema

variable {schema edited : Schema} {id : String} {patch : Members}

/-- An update that succeeds replaces the first node of the identifier. -/
theorem exists_place_of_update (hedited : schema.update id patch = .ok edited) :
    ∃ place node updated, schema.locate? id = some place ∧ schema.at? place = some node ∧
      node.patched patch = .ok updated ∧ edited = schema.modifyAt place fun _ => updated := by
  simp only [update] at hedited
  split at hedited
  · cases hedited
  · rename_i place hlocate
    split at hedited
    · cases hedited
    · rename_i node hnode
      obtain ⟨updated, hupdated, hcheck⟩ := Outcome.bind_eq_ok_iff.mp hedited
      split at hcheck <;> cases hcheck
      exact ⟨place, node, updated, hlocate, hnode, hupdated, rfl⟩

theorem addedDuplicate?_self (schema : Schema) (node : Node) :
    schema.addedDuplicate? node node = none := by
  rw [addedDuplicate?, List.find?_eq_none]
  simp

/-- An update that reads the same node again changes nothing. -/
theorem update_eq_self {place : Place} {node : Node} (hlocate : schema.locate? id = some place)
    (hnode : schema.at? place = some node) (hpatched : node.patched patch = .ok node) :
    schema.update id patch = .ok schema := by
  rw [update, hlocate]
  simp only [hnode, hpatched, bind, Except.bind, addedDuplicate?_self]
  exact congrArg Except.ok (modifyAt_eq_self hnode rfl)

/-- Writing nothing over a node changes nothing. -/
theorem update_nil (hschema : Obtained schema) (hid : id ∈ schema.ids) :
    schema.update id [] = .ok schema := by
  obtain ⟨place, node, hlocate, hnode, -, -⟩ := exists_place_of_mem_ids hid
  refine update_eq_self hlocate hnode (Outcome.mapError_eq_ok_iff.mpr ?_)
  exact (hschema.isNormal.at? hnode).decode_members .value

/-- An update that does not name the tag changes only what the patch names: the first node of the
identifier is read again with the patch over its members, and keeps its place, its identifier and
its tag; everything outside it stays as it is, and so does what is written of it under every other
key.  The empty patch changes nothing, nor does an update that fails. -/
theorem update_outcome (hschema : Obtained schema) (hpatch : patch.Ascending)
    (htag : patch.get? "tag" = none) (id : String) :
    (∀ edited, schema.update id patch = .ok edited → ∃ place node updated,
      (schema.locate? id = some place ∧ schema.at? place = some node ∧
        schema.find? id = some node) ∧
      (edited.locate? id = some place ∧ edited.at? place = some updated ∧
        edited.find? id = some updated) ∧
      Node.decode .value (.object (node.members.merge patch)) = .ok updated ∧
      (updated.id = node.id ∧ updated.tag = node.tag) ∧ schema.SameOutside place edited ∧
      ∀ key, patch.get? key = none → updated.members.get? key = node.members.get? key) ∧
    (id ∈ schema.ids → schema.update id [] = .ok schema) ∧
    ∀ failure, schema.update id patch = .error failure →
      (SchemaEdit.update id patch).perform schema = schema := by
  refine ⟨fun edited hedited => ?_, update_nil hschema, fun failure hfailure => ?_⟩
  · obtain ⟨place, node, updated, hlocate, hnode, hpatched, rfl⟩ := exists_place_of_update hedited
    obtain ⟨held, hheld, hfind, hid⟩ := exists_find?_of_locate? hlocate
    cases hnode.symm.trans hheld
    obtain ⟨hids, htags, hmembers⟩ :=
      (hschema.isNormal.at? hnode).members_of_patched hpatch htag hpatched
    have hplace : (schema.modifyAt place fun _ => updated).locate? id = some place :=
      locate?_modifyAt hlocate hnode (hids ▸ hid)
    obtain ⟨kept, hkept, hfound, -⟩ := exists_find?_of_locate? hplace
    cases hkept.symm.trans (at?_modifyAt hnode _)
    exact ⟨place, node, updated, ⟨hlocate, hnode, hfind⟩, ⟨hplace, hkept, hfound⟩,
      (Node.patched_eq_ok hpatched).2, ⟨hids, htags⟩, sameOutside_modifyAt hnode, hmembers⟩
  · simp only [SchemaEdit.perform, SchemaEdit.attempt, hfailure]

theorem update_outcome_survey :
    ∃ schema edited node updated, decode .value survey = .ok schema ∧
      schema.update "age" [("className", .string "wide")] = .ok edited ∧
      schema.find? "age" = some node ∧ edited.find? "age" = some updated ∧
      node.className = none ∧ updated.className = some (.string "wide") ∧
      updated.members.get? "min" = node.members.get? "min" := by
  obtain ⟨schema, edited, hread, hedited, hbefore, hafter⟩ : ∃ schema edited,
      decode .value survey = .ok schema ∧
        schema.update "age" [("className", .string "wide")] = .ok edited ∧
        (schema.find? "age").bind Node.className = none ∧
        (edited.find? "age").bind Node.className = some (.string "wide") :=
    ⟨_, _, rfl, rfl, rfl, rfl⟩
  obtain ⟨hsuccess, -, -⟩ := update_outcome (.read hread)
    (List.pairwise_singleton _ ("className", Json.string "wide")) rfl "age"
  obtain ⟨place, node, updated, ⟨-, -, hnode⟩, ⟨-, -, hupdated⟩, -, -, -, hmembers⟩ :=
    hsuccess edited hedited
  rw [hnode] at hbefore
  rw [hupdated] at hafter
  exact ⟨schema, edited, node, updated, hread, hedited, hnode, hupdated, hbefore, hafter,
    hmembers "min" rfl⟩

end Schema

end Forms
