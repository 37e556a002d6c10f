import Forms.Proofs.Codec.Mixing
import Forms.Proofs.Updating

/-!
# A patch applied twice

The second application writes the patch over what the first one left.  Each member of that object
stands in the object that was read the first time or in the node that came of it, so it is read to
the same node, even when the patch gave the node another tag and the members of the old one are
gone.  The exception is a patch that takes the tag away: the node then goes by the older name of a
tag, and that name is spent.
-/

namespace Forms

/-- The patch takes the tag of a node away and does not name another one. -/
def Members.RetractsTag (patch : Members) : Prop :=
  patch.get? "tag" = some .null ∧ patch.get? "type" = none

namespace Node

variable {node updated : Node} {patch : Members}

theorem patched_of_id (hid : ∀ value ∈ patch.get? "id", value = .string node.id.text) :
    node.patched patch = Decode.fromValue decode (.object (node.members.merge patch)) := by
  unfold patched
  split
  · rename_i value hvalue
    rw [if_pos (hid value hvalue)]
  · rfl

/-- The second object is the first one with members of the node that was read from it. -/
theorem drawsFrom_merge (hpatch : patch.Ascending) (node updated : Node) :
    (updated.members.merge patch).DrawsFrom (node.members.merge patch) updated.members := by
  intro key
  rw [get?_merge_members updated hpatch, get?_merge_members node hpatch]
  cases patch.get? key with
  | none => exact Or.inr (Option.none_or ..)
  | some value => exact Or.inl rfl

theorem IsNormal.mixture_of_patched (h : node.IsNormal) (hpatch : patch.Ascending)
    (hkeeps : ¬ patch.RetractsTag) (hupdated : node.patched patch = .ok updated) :
    Mixture (updated.members.merge patch) (node.members.merge patch) updated.members := by
  have hread := (patched_eq_ok hupdated).2
  have hmerged := Entries.ascending_merge node.ascending_members patch
  have hown := (decode_ensures _ _ _ hread).get?_members_tag
  refine ⟨drawsFrom_merge hpatch node updated, ?_, ?_⟩
  · rw [get?_merge_members updated hpatch, get?_merge_members node hpatch]
    cases htag : patch.get? "tag" with
    | none =>
        obtain ⟨-, htags, -⟩ := h.members_of_patched hpatch htag hupdated
        rw [Option.none_or, Option.none_or, hown, h.get?_members_tag, htags]
    | some value => rfl
  · rw [get?_merge_members updated hpatch, get?_merge_members node hpatch,
      get?_merge_members updated hpatch]
    cases htag : patch.get? "tag" with
    | none => exact Or.inr (Option.none_or ..)
    | some value =>
        by_cases hnull : value = .null
        · subst hnull
          cases htype : patch.get? "type" with
          | none => exact absurd ⟨htag, htype⟩ hkeeps
          | some legacyTag => exact Or.inl rfl
        · have hget : (node.members.merge patch).get? "tag" = some value := by
            rw [get?_merge_members node hpatch, htag, Option.some_or]
          refine Or.inr ?_
          rw [Option.some_or, hown, eq_tag_of_read hread hmerged.nodup_keys hget hnull]

/-- A patch that leaves the node a tag changes nothing when it is applied again. -/
theorem IsNormal.patched_again (h : node.IsNormal) (hpatch : patch.Ascending)
    (hkeeps : ¬ patch.RetractsTag) (hupdated : node.patched patch = .ok updated) :
    updated.patched patch = .ok updated := by
  obtain ⟨hid, hread⟩ := patched_eq_ok hupdated
  rw [← h.id_of_patched hpatch hupdated] at hid
  rw [patched_of_id hid]
  apply Outcome.mapError_eq_ok_iff.mpr
  exact decode_of_mixture (h.mixture_of_patched hpatch hkeeps hupdated)
    (Entries.ascending_merge updated.ascending_members patch)
    (Entries.ascending_merge node.ascending_members patch) updated.ascending_members hread
    ((decode_ensures _ _ _ hread).decode_members .value)

/-- A node that was read by the older name of its tag has no member of that name. -/
theorem get?_members_type_of_read {origin : Origin} {found : Members}
    (hread : decode origin (.object found) = .ok node) (hfound : (found.map Prod.fst).Nodup)
    (htag : found.get? "tag" = some .null) : node.members.get? "type" = none := by
  obtain ⟨frame, tag, members, hframe, hmembers, hbody, -⟩ := decode_eq_ok hread
  have hnamed := (tags_read hframe).1
  rw [Fields.optional, Fields.reads_field_iff hfound, htag] at hnamed
  have hbare : frame.tag = none := (Except.ok.inj hnamed).symm
  have hown : node.tagMembers.get? "type" = none := by
    rcases Body.ofMembers_eq_ok hbody with hknown | ⟨-, hunknown⟩
    · have hkind := hknown.map_ne_unknown toJson
      rw [tagMembers, Body.members_eq hkind, Json.get?_ofWrites_canonicalMembers,
        Body.get?_entries_of_mem_frameKeys hkind (by simp [frameKeys]), Option.map_none]
    · obtain ⟨-, -, hget⟩ := get?_of_tagAndMembers hfound hmembers
      have hsame : node.tagMembers = members := by rw [tagMembers, hunknown]; rfl
      rw [hsame, hget, if_pos rfl, hbare]
      rfl
  rw [get?_members, get?_entries_of_isNormal (decode_ensures _ _ _ hread), hown]
  simp [frameEntries]

/-- A patch that takes the tag away cannot be applied again. -/
theorem IsNormal.patched_again_of_retractsTag (h : node.IsNormal) (hpatch : patch.Ascending)
    (hretracts : patch.RetractsTag) (hupdated : node.patched patch = .ok updated) :
    updated.patched patch = .error (.unreadable (.refused (.missingTag node.id.text))) := by
  obtain ⟨hid, hread⟩ := patched_eq_ok hupdated
  have hsameId := h.id_of_patched hpatch hupdated
  have hnormal := decode_ensures _ _ _ hread
  have hmerged := Entries.ascending_merge node.ascending_members patch
  have hagain := Entries.ascending_merge updated.ascending_members patch
  rw [← hsameId] at hid ⊢
  obtain ⟨frame, _, _, hframe, -⟩ := decode_eq_ok hread
  obtain ⟨own, _, _, hown, -, -, hownId, -⟩ := decode_eq_ok (hnormal.decode_members .value)
  obtain ⟨mixed, hmixed⟩ := frameFields_mixes _ _ _ _ _ _ hmerged.nodup_keys
    updated.ascending_members.nodup_keys hagain.nodup_keys (drawsFrom_merge hpatch node updated)
    hframe hown
  have hget (key : String) : (updated.members.merge patch).get? key =
      (patch.get? key).or (updated.members.get? key) := get?_merge_members updated hpatch key
  obtain ⟨htag, hlegacy⟩ := tags_read hmixed
  rw [Fields.optional, Fields.reads_field_iff hagain.nodup_keys, hget, hretracts.1] at htag
  have hbare : mixed.tag = none := (Except.ok.inj htag).symm
  have hspent : updated.members.get? "type" = none := by
    apply get?_members_type_of_read hread hmerged.nodup_keys
    rw [get?_merge_members node hpatch, hretracts.1, Option.some_or]
  rw [Fields.optional, Fields.reads_field_iff hagain.nodup_keys, hget, hretracts.2, hspent]
    at hlegacy
  have hnameless : mixed.legacyTag = none := (Option.some.inj hlegacy).symm
  have hsame : mixed.id = updated.id := by
    have hframes := frameFields_alike "id" _ _ _ _ _ hagain.nodup_keys
      updated.ascending_members.nodup_keys (hnormal.get?_merge_members_id hpatch hid) hmixed hown
    rw [hownId, hframes.id rfl]
  rw [patched_of_id hid, Decode.fromValue, decode_eq, decodeOver,
    openRecord_eq_ok_iff.mpr ⟨_, rfl, hmixed, rfl⟩]
  simp only [bind, Except.bind, ofFrame, tagAndMembers, hbare, hnameless, hsame, Except.mapError]

end Node

namespace Schema

variable {schema edited : Schema} {id : String} {patch : Members}

/-- After an update the same one changes nothing, whatever kind of node the patch made, and whatever
identifiers the schema repeats.  But a patch that takes the tag away is refused the second time, and
the schema stays as the first application left it. -/
theorem update_again (hschema : Obtained schema) (hpatch : patch.Ascending)
    (hedited : schema.update id patch = .ok edited) :
    (¬ patch.RetractsTag → edited.update id patch = .ok edited) ∧
    (patch.RetractsTag →
      edited.update id patch = .error (.unreadable (.refused (.missingTag id))) ∧
      (SchemaEdit.update id patch).perform edited = edited) := by
  obtain ⟨place, node, updated, hlocate, hnode, hpatched, rfl⟩ := exists_place_of_update hedited
  obtain ⟨held, hheld, -, hid⟩ := exists_find?_of_locate? hlocate
  cases hnode.symm.trans hheld
  have hnormal := hschema.isNormal.at? hnode
  have hids := hnormal.id_of_patched hpatch hpatched
  have hplace : (schema.modifyAt place fun _ => updated).locate? id = some place :=
    locate?_modifyAt hlocate hnode (hids ▸ hid)
  have hupdated : (schema.modifyAt place fun _ => updated).at? place = some updated :=
    at?_modifyAt hnode _
  refine ⟨fun hkeeps => ?_, fun hretracts => ?_⟩
  · exact update_eq_self hplace hupdated (hnormal.patched_again hpatch hkeeps hpatched)
  · have hrefused := hnormal.patched_again_of_retractsTag hpatch hretracts hpatched
    have hfailure : (schema.modifyAt place fun _ => updated).update id patch =
        .error (.unreadable (.refused (.missingTag id))) := by
      rw [update, hplace]
      simp only [hupdated, hrefused, hid]
      rfl
    refine ⟨hfailure, ?_⟩
    simp only [SchemaEdit.perform, SchemaEdit.attempt, hfailure]

/-- A node whose tag is not known, beside the name of a tag that is. -/
def signed : Json := .object [("nodes", .array [.object [("id", .string "sig"),
  ("tag", .string "signature"), ("type", .string "badge"), ("text", .string "Signed")]])]

theorem update_again_signed :
    ∃ schema edited bared, decode .value signed = .ok schema ∧
      schema.update "sig" [("label", .string "Sign"), ("tag", .string "button")] = .ok edited ∧
      edited.update "sig" [("label", .string "Sign"), ("tag", .string "button")] = .ok edited ∧
      schema.update "sig" [("tag", .null)] = .ok bared ∧
      bared.update "sig" [("tag", .null)] =
        .error (.unreadable (.refused (.missingTag "sig"))) := by
  obtain ⟨schema, edited, bared, hread, hedited, hbared⟩ : ∃ schema edited bared,
      decode .value signed = .ok schema ∧
        schema.update "sig" [("label", .string "Sign"), ("tag", .string "button")] = .ok edited ∧
        schema.update "sig" [("tag", .null)] = .ok bared :=
    ⟨_, _, _, rfl, rfl, rfl⟩
  obtain ⟨hsame, -⟩ := update_again (.read hread) (List.pairwise_pair.mpr (by decide)) hedited
  obtain ⟨-, hrefused⟩ := update_again (.read hread) (List.pairwise_singleton _ _) hbared
  exact ⟨schema, edited, bared, hread, hedited, hsame nofun, hbared, (hrefused ⟨rfl, rfl⟩).1⟩

/-- Not every update can be repeated: the older name of a tag is there only once. -/
theorem not_update_again_signed :
    ¬ ∀ schema edited id patch, Obtained schema → Entries.Ascending patch →
      schema.update id patch = .ok edited → edited.update id patch = .ok edited := by
  intro hagain
  obtain ⟨schema, bared, hread, hbared, hrefused⟩ : ∃ schema bared,
      decode .value signed = .ok schema ∧ schema.update "sig" [("tag", .null)] = .ok bared ∧
        bared.update "sig" [("tag", .null)] =
          .error (.unreadable (.refused (.missingTag "sig"))) :=
    ⟨_, _, rfl, rfl, rfl⟩
  have hsame := hagain schema bared "sig" _ (.read hread) (List.pairwise_singleton _ _) hbared
  rw [hrefused] at hsame
  cases hsame

end Schema

end Forms
