import Forms.Proofs.Tree.Order
import Forms.Schema.Edit

/-!
# Searching and walking

What is shown of a node are the regions of its filled slots.  An edit searches slot by slot and
finding reads the walk region by region, so both end at the same node, also where the identifier
repeats: the first one of the walk.
-/

namespace Forms

variable {Child : Type}

/-- What stands in a slot, under the key of the slot; nothing for a slot that is left empty. -/
def Slot.filled? (slot : Slot Child) : Option (String × List Child) :=
  match slot.content with
  | .optional none => none
  | content => some (slot.key, content.toList)

namespace Layout

theorem filterMap_filled?_slots (layout : Layout Child) :
    layout.slots.filterMap Slot.filled? =
      layout.regions.map fun region => (region.key, region.nodes) := by
  have hsections {Extras : Type} (scope : String) (sections : List (Section Extras Child)) :
      (sections.map (·.slot scope)).filterMap Slot.filled? =
        (sections.map (·.region scope)).map fun region => (region.key, region.nodes) := by
    rw [List.filterMap_map, List.map_map, ← List.filterMap_eq_map]
    rfl
  cases layout with
  | tabs | stepper | accordion => exact hsections _ _
  | card header content footer variant => cases header <;> cases footer <;> rfl
  | modal | grid | tooltip => rfl

end Layout

theorem Body.filterMap_filled?_slots (body : Body Child) :
    body.slots.filterMap Slot.filled? =
      body.regions.map fun region => (region.key, region.nodes) := by
  cases body with
  | container layout => exact layout.filterMap_filled?_slots
  | field | display | unknown => rfl

namespace Schema

/-- The schema with a patch written over the node at a place, unless an identifier is added that it
would hold more than once. -/
def overwriteAt (schema : Schema) (place : Place) (node : Node) (patch : Members) :
    Outcome Schema := do
  let updated ← node.patched patch
  match schema.addedDuplicate? node updated with
  | some duplicate => .error (.duplicateId duplicate)
  | none => .ok (schema.modifyAt place fun _ => updated)

/-- Updating a node and inserting into one begin at the first node of the walk that has the
identifier, and tell that nothing is found where there is none. -/
structure EditsFirst (schema : Schema) (id : String) : Prop where
  update : ∀ patch, schema.update id patch =
    match schema.first? id with
    | none => .error (.nodeNotFound id)
    | some (place, node) => schema.overwriteAt place node patch
  insert : ∀ region index child, schema.insert (.inRegion id region index) child =
    match firstRepeated? schema.ids child.ids with
    | some repeated => .error (.duplicateId repeated)
    | none =>
      match schema.first? id with
      | none => .error (.containerNotFound id)
      | some (place, held) => do
        let edited ← held.insertInRegion region index child
        .ok (schema.modifyAt place fun _ => edited)

theorem editsFirst (schema : Schema) (id : String) : schema.EditsFirst id where
  update := by
    intro patch
    rw [Schema.update, locate?_eq_first?]
    cases hfirst : schema.first? id with
    | none => rfl
    | some entry =>
        simp only [Option.map_some, at?_of_first? hfirst]
        rfl
  insert := by
    intro region index child
    rw [Schema.insert]
    cases firstRepeated? schema.ids child.ids with
    | some repeated => rfl
    | none =>
        simp only [Insertion.inRegion, locate?_eq_first?]
        cases hfirst : schema.first? id with
        | none => rfl
        | some entry => simp only [Option.map_some, at?_of_first? hfirst]

/-- The slots of a node that are not left empty are the regions that are shown, under the same keys,
in the same order and with the same children.  So the search that edits begin with meets the places
of the walk one after the other, each of them once: it ends at the first node of the identifier,
the one that finding gives, and it ends nowhere exactly when finding gives none. -/
theorem search_meets_walk :
    (∀ node : Node, node.body.slots.filterMap Slot.filled? =
      node.body.regions.map fun region => (region.key, region.nodes)) ∧
    ∀ schema : Schema,
      (schema.positions.map Prod.snd = schema.walk ∧ (schema.positions.map Prod.fst).Nodup ∧
        ∀ place node, (place, node) ∈ schema.positions ↔ schema.at? place = some node) ∧
      ∀ id, (schema.locate? id = (schema.first? id).map Prod.fst ∧
        schema.find? id = (schema.first? id).map Prod.snd ∧
        ((schema.locate? id).isSome ↔ (schema.find? id).isSome)) ∧ schema.EditsFirst id := by
  refine ⟨fun node => node.body.filterMap_filled?_slots, fun schema => ⟨?_, fun id => ⟨?_, ?_⟩⟩⟩
  · exact ⟨schema.positions_map_snd, schema.nodup_positions, fun _ _ => mem_positions_iff⟩
  · refine ⟨schema.locate?_eq_first? id, schema.find?_eq_first? id, ?_⟩
    rw [locate?_eq_first?, find?_eq_first?, Option.isSome_map, Option.isSome_map]
  · exact schema.editsFirst id

end Schema

end Forms
