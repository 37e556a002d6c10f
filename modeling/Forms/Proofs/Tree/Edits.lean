import Forms.Proofs.Outcome
import Forms.Proofs.Tree.Splice

/-!
# What an edit of a schema does

Each edit that succeeds is taken apart once, with all that it has checked.  A place in a schema
splits its identifiers like an address splits those of a node.  A sequence of edits goes on after a
failure with the schema that the failing edit was given.
-/

namespace Forms

namespace Schema

/-- A root on the way to a place, with the roots before and after it. -/
theorem exists_root_split {schema : Schema} {place : Place} {target : Node}
    (htarget : schema.at? place = some target) :
    ∃ root before after, schema.nodes = before ++ root :: after ∧
      root.at? place.address = some target ∧
      ∀ change, schema.nodes.modify place.root change = before ++ change root :: after := by
  obtain ⟨root, hroot, hinside⟩ := Option.bind_eq_some_iff.mp htarget
  obtain ⟨before, after, hnodes, hmodify⟩ := exists_modify_split hroot
  exact ⟨root, before, after, hnodes, hinside, hmodify⟩

/-- The walk of the schema, each node without its children. -/
def bareWalk (schema : Schema) : List Shell := schema.walk.map Node.bare

theorem bareWalk_eq_flatMap (schema : Schema) :
    schema.bareWalk = schema.nodes.flatMap Node.bareWalk := by
  rw [bareWalk, walk, List.map_flatMap]
  rfl

theorem ids_eq_map_bareWalk (schema : Schema) :
    schema.ids = schema.bareWalk.map fun shell => shell.id.text := by
  rw [ids, bareWalk, List.map_map]
  rfl

theorem ids_eq_flatMap (schema : Schema) : schema.ids = schema.nodes.flatMap Node.ids := by
  rw [ids, walk, List.map_flatMap]
  rfl

/-- The walk of the node at a place is one stretch of that of the schema, and a change of the node
replaces the stretch. -/
theorem exists_bareWalk_split {schema : Schema} {place : Place} {target : Node}
    (htarget : schema.at? place = some target) :
    ∃ before after, schema.bareWalk = before ++ target.bareWalk ++ after ∧
      ∀ change, (schema.modifyAt place change).bareWalk =
        before ++ (change target).bareWalk ++ after := by
  obtain ⟨root, first, last, hnodes, hinside, hmodify⟩ := exists_root_split htarget
  obtain ⟨before, after, hwalk, hchange⟩ := Node.exists_bareWalk_split hinside
  refine ⟨first.flatMap Node.bareWalk ++ before, after ++ last.flatMap Node.bareWalk, ?_,
    fun change => ?_⟩
  · calc
      schema.bareWalk = (first ++ root :: last).flatMap Node.bareWalk := by
        rw [bareWalk_eq_flatMap, hnodes]
      _ = first.flatMap Node.bareWalk ++
          (before ++ target.bareWalk ++ after ++ last.flatMap Node.bareWalk) := by
        rw [List.flatMap_append, List.flatMap_cons, hwalk]
      _ = _ := by simp only [List.append_assoc]
  · calc
      (schema.modifyAt place change).bareWalk =
          (first ++ root.modifyAt change place.address :: last).flatMap Node.bareWalk := by
        rw [bareWalk_eq_flatMap, modifyAt, hmodify]
      _ = first.flatMap Node.bareWalk ++
          (before ++ (change target).bareWalk ++ after ++ last.flatMap Node.bareWalk) := by
        rw [List.flatMap_append, List.flatMap_cons, hchange]
      _ = _ := by simp only [List.append_assoc]

/-- The identifiers of the node at a place are one stretch of those of the schema, and a change of
that node replaces the stretch. -/
theorem exists_ids_split {schema : Schema} {place : Place} {target : Node}
    (htarget : schema.at? place = some target) :
    ∃ before after, schema.ids = before ++ target.ids ++ after ∧
      ∀ change, (schema.modifyAt place change).ids = before ++ (change target).ids ++ after := by
  obtain ⟨before, after, hwalk, hchange⟩ := exists_bareWalk_split htarget
  refine ⟨before.map fun shell => shell.id.text, after.map fun shell => shell.id.text, ?_, ?_⟩
  · rw [ids_eq_map_bareWalk, hwalk, List.map_append, List.map_append, ← Node.ids_eq_map_bareWalk]
  · intro change
    rw [ids_eq_map_bareWalk, hchange, List.map_append, List.map_append, ← Node.ids_eq_map_bareWalk]

/-- Erasing the node at a place leaves a part of the identifiers. -/
theorem ids_eraseAt_sublist {schema : Schema} {place : Place} {target : Node}
    (htarget : schema.at? place = some target) :
    (schema.eraseAt place).ids.Sublist schema.ids := by
  obtain ⟨root, first, last, hnodes, hinside, hmodify⟩ := exists_root_split htarget
  rw [ids_eq_flatMap, ids_eq_flatMap]
  simp only [eraseAt]
  split
  · exact (List.eraseIdx_sublist _ _).flatMap _
  · rw [hmodify, hnodes, List.flatMap_append, List.flatMap_append, List.flatMap_cons,
      List.flatMap_cons]
    exact ((Node.ids_eraseAt_sublist hinside).append_right _).append_left _

/-! ## Edits that succeed -/

theorem insert_eq_ok {schema edited : Schema} {place : Insertion} {node : Node}
    (hedited : schema.insert place node = .ok edited) :
    firstRepeated? schema.ids node.ids = none ∧
      (edited = { schema with nodes := insertAt place.index node schema.nodes } ∨
        ∃ container held region changed, schema.at? container = some held ∧
          held.insertInRegion region place.index node = .ok changed ∧
          edited = schema.modifyAt container fun _ => changed) := by
  simp only [insert] at hedited
  split at hedited
  · cases hedited
  · rename_i hfresh
    refine ⟨hfresh, ?_⟩
    split at hedited
    · cases hedited
      exact Or.inl rfl
    · split at hedited
      · cases hedited
      · split at hedited
        · cases hedited
        · rename_i hheld
          obtain ⟨changed, hchanged, heq⟩ := Outcome.bind_eq_ok_iff.mp hedited
          cases heq
          exact Or.inr ⟨_, _, _, changed, hheld, hchanged, rfl⟩

theorem update_eq_ok {schema edited : Schema} {id : String} {patch : Members}
    (hedited : schema.update id patch = .ok edited) :
    ∃ place node updated, schema.at? place = some node ∧ node.patched patch = .ok updated ∧
      schema.addedDuplicate? node updated = none ∧
      edited = schema.modifyAt place fun _ => updated := by
  simp only [update] at hedited
  split at hedited
  · cases hedited
  · split at hedited
    · cases hedited
    · rename_i hnode
      obtain ⟨updated, hupdated, hcheck⟩ := Outcome.bind_eq_ok_iff.mp hedited
      split at hcheck
      · cases hcheck
      · rename_i hfresh
        cases hcheck
        exact ⟨_, _, updated, hnode, hupdated, hfresh, rfl⟩

theorem remove_eq_ok {schema edited : Schema} {id : String} {removed : Node}
    (hedited : schema.remove id = .ok (removed, edited)) :
    ∃ place, schema.removal id = .found place ∧ schema.at? place = some removed ∧
      edited = schema.eraseAt place := by
  simp only [remove] at hedited
  split at hedited
  · cases hedited
  · cases hedited
  · rename_i hfound
    split at hedited
    · cases hedited
    · rename_i hnode
      cases hedited
      exact ⟨_, hfound, hnode, rfl⟩

end Schema

/-! ## Sequences of edits -/

/-- One edit of a schema. -/
inductive SchemaEdit where
  | insert (place : Insertion) (node : Node)
  | update (id : String) (patch : Members)
  | remove (id : String)

namespace SchemaEdit

def attempt (schema : Schema) : SchemaEdit → Outcome Schema
  | .insert place node => schema.insert place node
  | .update id patch => schema.update id patch
  | .remove id => (schema.remove id).map Prod.snd

/-- The schema after an edit; one that fails leaves it as it is. -/
def perform (schema : Schema) (edit : SchemaEdit) : Schema :=
  match edit.attempt schema with
  | .ok edited => edited
  | .error _ => schema

/-- The schema after a sequence of edits. -/
def performAll (schema : Schema) (edits : List SchemaEdit) : Schema := edits.foldl perform schema

/-- What an edit does to a schema is nothing, or what it does when it succeeds. -/
theorem perform_cases {motive : Schema → Prop} {schema : Schema} (edit : SchemaEdit)
    (hkept : motive schema)
    (hedited : ∀ edited, edit.attempt schema = .ok edited → motive edited) :
    motive (perform schema edit) := by
  rw [perform]
  split
  · rename_i edited hattempt
    exact hedited edited hattempt
  · exact hkept

end SchemaEdit

end Forms
