import Forms.Proofs.Codec.Edit
import Forms.Proofs.Tree.Edits

/-!
# Schemas in JSON

A schema is normal when its nodes are and its initial values are sorted.  Reading gives normal
schemas and restores them, and every edit that succeeds keeps a schema normal.
-/

namespace Forms

namespace Schema

structure IsNormal (schema : Schema) : Prop where
  nodes : ∀ node ∈ schema.nodes, node.IsNormal
  initialValues : ∀ values ∈ schema.initialValues, (Json.object values).IsCanonical

theorem decode_ensures : Decoder.Ensures decode IsNormal := by
  have hnodes : (Fields.aliased ["nodes", "components"] (Decode.list Node.decode) []).Ensures
      fun nodes => ∀ node ∈ nodes, node.IsNormal :=
    .field Node.decode_ensures.list _ (by simp) (by simp)
  have hvalues := Fields.Ensures.omissible Decode.members_ensures.optional "initialValues"
    (by simp)
  apply Decode.record_ensures
  refine (Fields.Ensures.trivial _).map ?_ |>.seq (.trivial _) |>.seq hnodes |>.seq hvalues
  intro _ _ _ _ nodes hnodes values hvalues
  exact ⟨hnodes, hvalues⟩

theorem IsNormal.restores {schema : Schema} (h : schema.IsNormal) :
    Decoder.Restores decode toJson schema := by
  apply Decode.record_restores (by rfl)
  intro origin entries hcarries
  have hnodes : (Fields.aliased ["nodes", "components"] (Decode.list Node.decode) []).Reads origin
      entries schema.nodes := by
    refine .field hcarries List.mem_cons_self ?_ ?_
      (.list fun node hnode => (h.nodes node hnode).restores)
    · simp
    · simp
  refine (Fields.Reads.omissible_string hcarries ?_).map Schema.mk
    |>.seq (.omissible_string hcarries ?_)
    |>.seq hnodes
    |>.seq (.omissible hcarries ?_ fun values hvalues =>
      ⟨.members (h.initialValues values hvalues), nofun⟩)
  all_goals simp

/-! ## Edits -/

namespace IsNormal

variable {schema : Schema}

theorem at? (h : schema.IsNormal) {place : Place} {target : Node}
    (htarget : schema.at? place = some target) : target.IsNormal := by
  obtain ⟨root, before, after, hnodes, hinside, -⟩ := exists_root_split htarget
  exact (h.nodes root (by simp [hnodes])).at? hinside

theorem modifyAt (h : schema.IsNormal) {place : Place} {target : Node}
    (htarget : schema.at? place = some target) {change : Node → Node}
    (hchange : (change target).IsNormal) : (schema.modifyAt place change).IsNormal := by
  obtain ⟨root, before, after, hnodes, hinside, hmodify⟩ := exists_root_split htarget
  have hall := h.nodes
  rw [hnodes, List.forall_mem_append, List.forall_mem_cons] at hall
  refine ⟨?_, h.initialValues⟩
  rw [Schema.modifyAt, hmodify, List.forall_mem_append, List.forall_mem_cons]
  exact ⟨hall.1, hall.2.1.modifyAt hinside hchange, hall.2.2⟩

theorem eraseAt (h : schema.IsNormal) {place : Place} {target : Node}
    (htarget : schema.at? place = some target) : (schema.eraseAt place).IsNormal := by
  obtain ⟨root, before, after, hnodes, hinside, hmodify⟩ := exists_root_split htarget
  have hall := h.nodes
  simp only [Schema.eraseAt]
  split
  · exact ⟨fun node hnode => hall node (List.mem_of_mem_eraseIdx hnode), h.initialValues⟩
  · rw [hnodes, List.forall_mem_append, List.forall_mem_cons] at hall
    refine ⟨?_, h.initialValues⟩
    simp only [hmodify, List.forall_mem_append, List.forall_mem_cons]
    exact ⟨hall.1, hall.2.1.eraseAt hinside, hall.2.2⟩

theorem insert (h : schema.IsNormal) {place : Insertion} {node : Node} (hnode : node.IsNormal)
    {edited : Schema} (hedited : schema.insert place node = .ok edited) : edited.IsNormal := by
  obtain ⟨-, rfl | ⟨container, held, region, changed, hheld, hchanged, rfl⟩⟩ := insert_eq_ok hedited
  · refine ⟨?_, h.initialValues⟩
    simp only [insertAt, List.forall_mem_append, List.forall_mem_cons]
    exact ⟨fun held hheld => h.nodes held (List.mem_of_mem_take hheld), hnode,
      fun held hheld => h.nodes held (List.mem_of_mem_drop hheld)⟩
  · exact h.modifyAt hheld ((h.at? hheld).insertInRegion hnode hchanged)

theorem update (h : schema.IsNormal) {id : String} {patch : Members} {edited : Schema}
    (hedited : schema.update id patch = .ok edited) : edited.IsNormal := by
  obtain ⟨place, node, updated, hnode, hupdated, -, rfl⟩ := update_eq_ok hedited
  exact h.modifyAt hnode (Node.isNormal_of_patched hupdated)

theorem remove (h : schema.IsNormal) {id : String} {removed : Node} {edited : Schema}
    (hedited : schema.remove id = .ok (removed, edited)) : edited.IsNormal := by
  obtain ⟨place, -, hremoved, rfl⟩ := remove_eq_ok hedited
  exact h.eraseAt hremoved

end IsNormal

end Schema

end Forms
