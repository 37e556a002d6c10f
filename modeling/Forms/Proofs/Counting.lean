import Forms.Proofs.Addressing
import Forms.Proofs.Searching
import Mathlib.Algebra.Ring.Nat

/-!
# Counting identifiers outside a node

An update compares how often an identifier occurs in the node, in the node as it is read again, and
in the schema around it.  The last number is not counted but reckoned, as a difference.  What stands
inside the node is a stretch of the walk, so the difference is never cut off, and it is what a
count of the nodes outside would give.
-/

namespace Forms

/-- In words that can hold the whole, taking a part away does not wrap. -/
theorem toNat_ofNat_sub {width whole part : Nat} (hle : part ≤ whole) (hlt : whole < 2 ^ width) :
    (BitVec.ofNat width whole - BitVec.ofNat width part).toNat = whole - part := by
  have hwhole : (BitVec.ofNat width whole).toNat = whole := Nat.mod_eq_of_lt hlt
  have hpart : (BitVec.ofNat width part).toNat = part := Nat.mod_eq_of_lt (hle.trans_lt hlt)
  rw [BitVec.toNat_sub_of_le, hwhole, hpart]
  rw [BitVec.le_def, hwhole, hpart]
  exact hle

namespace Schema

variable {schema : Schema} {place : Place} {node updated : Node} {id : String} {patch : Members}

/-- Identifiers of the nodes outside the one at the place. -/
def idsOutside (schema : Schema) (place : Place) : List String :=
  (schema.outside place).map fun other => other.id.text

/-- How often the identifier occurs outside the node at the place, reckoned from how often it occurs
in the schema and in the node. -/
structure ReckonsOutside (schema : Schema) (place : Place) (node : Node) (id : String) : Prop where
  le : node.ids.count id ≤ schema.ids.count id
  sub_eq : schema.ids.count id - node.ids.count id = (schema.idsOutside place).count id
  /-- Words that can count the nodes of the schema do not wrap. -/
  word_sub_eq : ∀ width, schema.ids.length < 2 ^ width →
    (BitVec.ofNat width (schema.ids.count id) - BitVec.ofNat width (node.ids.count id)).toNat =
      (schema.idsOutside place).count id

theorem count_ids_eq (hnode : schema.at? place = some node) (id : String) :
    schema.ids.count id = (schema.idsOutside place).count id + node.ids.count id := by
  obtain ⟨before, after, hwalk, houtside⟩ := exists_walk_split hnode
  rw [ids, idsOutside, Node.ids, hwalk, houtside]
  simp only [List.map_append, List.count_append]
  omega

theorem reckonsOutside (hnode : schema.at? place = some node) (id : String) :
    schema.ReckonsOutside place node id := by
  have hcount := count_ids_eq hnode id
  have hle : node.ids.count id ≤ schema.ids.count id := hcount ▸ Nat.le_add_left _ _
  have hsub : schema.ids.count id - node.ids.count id = (schema.idsOutside place).count id := by
    rw [hcount, Nat.add_sub_cancel]
  refine ⟨hle, hsub, fun width hwidth => ?_⟩
  rw [toNat_ofNat_sub hle (List.count_le_length.trans_lt hwidth), hsub]

/-- An update adds a duplicate when it makes an identifier more frequent inside the node, and the
schema would hold it more than once. -/
theorem isSome_addedDuplicate?_iff (hnode : schema.at? place = some node) (updated : Node) :
    (schema.addedDuplicate? node updated).isSome ↔
      ∃ other ∈ updated.ids, node.ids.count other < updated.ids.count other ∧
        1 < (schema.idsOutside place).count other + updated.ids.count other := by
  rw [addedDuplicate?, List.find?_isSome]
  simp only [Bool.and_eq_true, decide_eq_true_eq, (reckonsOutside hnode _).sub_eq]

/-- An update whose patch can be read conflicts only over an added duplicate. -/
theorem update_failsWith_conflict_iff (hfirst : schema.first? id = some (place, node))
    (hupdated : node.patched patch = .ok updated) :
    (schema.update id patch).FailsWith .conflict ↔
      (schema.addedDuplicate? node updated).isSome := by
  have hupdate : schema.update id patch = schema.overwriteAt place node patch := by
    rw [(schema.editsFirst id).update, hfirst]
  rw [hupdate]
  cases hadded : schema.addedDuplicate? node updated with
  | none =>
      have hoverwrite : schema.overwriteAt place node patch =
          .ok (schema.modifyAt place fun _ => updated) := by
        simp only [overwriteAt, hupdated, bind, Except.bind, hadded]
      exact iff_of_false (hoverwrite ▸ Outcome.not_failsWith_ok _) Bool.false_ne_true
  | some duplicate =>
      have hoverwrite : schema.overwriteAt place node patch = .error (.duplicateId duplicate) := by
        simp only [overwriteAt, hupdated, bind, Except.bind, hadded]
      exact iff_of_true ⟨_, hoverwrite, rfl⟩ rfl

/-- When an update finds its node, the walk of the node is a stretch of that of the schema, so no
identifier occurs more often in the node than in the schema: the difference is exact, in words as in
numbers, and tells how often the identifier occurs in what the walk has outside the stretch.  The
update conflicts exactly when its patch makes an identifier more frequent inside the node and leaves
it more than once in the schema. -/
theorem update_reckons_outside (hfind : schema.find? id = some node) (patch : Members) :
    ∃ place, (schema.locate? id = some place ∧ schema.at? place = some node) ∧
      (∃ before after, schema.walk = before ++ node.walk ++ after ∧
        schema.outside place = before ++ after) ∧
      (∀ other, schema.ReckonsOutside place node other) ∧
      ∀ updated, node.patched patch = .ok updated →
        ((schema.update id patch).FailsWith .conflict ↔
          ∃ other ∈ updated.ids, node.ids.count other < updated.ids.count other ∧
            1 < (schema.idsOutside place).count other + updated.ids.count other) := by
  rw [find?_eq_first?] at hfind
  obtain ⟨⟨place, _⟩, hfirst, rfl⟩ := Option.map_eq_some_iff.mp hfind
  have hnode := at?_of_first? hfirst
  have hlocate : schema.locate? id = some place := by
    rw [locate?_eq_first?, hfirst, Option.map_some]
  refine ⟨place, ⟨hlocate, hnode⟩, exists_walk_split hnode, reckonsOutside hnode, ?_⟩
  intro updated hupdated
  exact (update_failsWith_conflict_iff hfirst hupdated).trans
    (isSome_addedDuplicate?_iff hnode updated)

/-- Two badges where the card held one. -/
def doubled : Members :=
  [("content", .array
    [.object [("id", .string "x"), ("tag", .string "badge"), ("text", .string "first")],
      .object [("id", .string "x"), ("tag", .string "badge"), ("text", .string "second")]])]

theorem update_reckons_outside_twoBadges :
    ∃ schema node place, decode .value twoBadges = .ok schema ∧
      schema.find? "frame" = some node ∧ schema.locate? "frame" = some place ∧
      (schema.ids.count "x" = 2 ∧ node.ids.count "x" = 1) ∧
      (schema.idsOutside place).count "x" = 1 ∧
      (BitVec.ofNat 64 (schema.ids.count "x") - BitVec.ofNat 64 (node.ids.count "x")).toNat = 1 ∧
      (schema.update "frame" doubled).FailsWith .conflict := by
  obtain ⟨schema, node, updated, hread, hfind, hpatched, hwhole, hinside, hafter, hlength⟩ :
      ∃ schema node updated, decode .value twoBadges = .ok schema ∧
        schema.find? "frame" = some node ∧ node.patched doubled = .ok updated ∧
        schema.ids.count "x" = 2 ∧ node.ids.count "x" = 1 ∧ updated.ids.count "x" = 2 ∧
        schema.ids.length = 3 :=
    ⟨_, _, _, rfl, rfl, rfl, rfl, rfl, rfl, rfl⟩
  obtain ⟨place, ⟨hlocate, -⟩, -, hreckons, hconflict⟩ := update_reckons_outside hfind doubled
  have houtside : (schema.idsOutside place).count "x" = 1 := by
    rw [← (hreckons "x").sub_eq, hwhole, hinside]
  have hword := (hreckons "x").word_sub_eq 64 (by omega)
  have hmember : "x" ∈ updated.ids := List.count_pos_iff.mp (by omega)
  exact ⟨schema, node, place, hread, hfind, hlocate, ⟨hwhole, hinside⟩, houtside,
    hword.trans houtside, (hconflict updated hpatched).mpr ⟨"x", hmember, by omega, by omega⟩⟩

end Schema

end Forms
