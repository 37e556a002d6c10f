import Forms.Proofs.Identifiers
import Forms.Proofs.Tree.Frame

/-!
# Inserting a node

An insertion looks at identifiers first, then for the container and its region, and last at what
the region holds.  Each look can refuse it, so of several reasons to refuse only the first is told.
An insertion that is not refused adds one member to one sequence.
-/

namespace Forms

theorem insertAt_eq_insertIdx {α : Type} (index : Nat) (item : α) (items : List α) :
    insertAt index item items = items.insertIdx (min index items.length) item := by
  rw [insertAt]
  induction items generalizing index with
  | nil => cases index <;> rfl
  | cons first items ih =>
      cases index with
      | zero => simp
      | succ index =>
          have hmin : min (index + 1) (first :: items).length = min index items.length + 1 := by
            rw [List.length_cons, Nat.succ_min_succ]
          rw [List.take_succ_cons, List.drop_succ_cons, List.cons_append, ih, hmin,
            List.insertIdx_succ_cons]

/-- One more child in the sequence of a slot. -/
def SlotEdit.inserting {Child : Type} (index : Nat) (child : Child) : SlotEdit Child :=
  ⟨insertAt index child, fun held => held, fun held => held⟩

/-! ## Regions by their keys -/

namespace Body

variable {Child : Type}

/-- The keys of the regions that a node has, whether something stands in them or not. -/
def regionKeys : Body Child → List String
  | .container (.tabs sections _) => sections.map fun part => s!"tab:{part.id}"
  | .container (.stepper steps _ _) => steps.map fun part => s!"step:{part.id}"
  | .container (.accordion panels _ _) => panels.map fun part => s!"panel:{part.id}"
  | .container (.card ..) => ["header", "content", "footer"]
  | .container (.modal ..) => ["trigger", "content"]
  | .container (.grid ..) => ["children"]
  | .container (.tooltip ..) => ["children"]
  | _ => []

/-- The keys of the regions for a single node. -/
def singleKeys : Body Child → List String
  | .container (.card ..) => ["header", "footer"]
  | .container (.modal ..) => ["trigger"]
  | .container (.tooltip ..) => ["children"]
  | _ => []

theorem slots_map_key (body : Body Child) : body.slots.map Slot.key = body.regionKeys := by
  cases body with
  | container layout =>
      cases layout with
      | tabs | stepper | accordion => exact List.map_map
      | card | modal | grid | tooltip => rfl
  | field | display | unknown => rfl

theorem key_mem_singleKeys_iff {body : Body Child} {slot : Slot Child} (hslot : slot ∈ body.slots) :
    slot.key ∈ body.singleKeys ↔ ∀ nodes, slot.content ≠ .sequence nodes := by
  cases body with
  | container layout =>
      cases layout with
      | tabs | stepper | accordion =>
          obtain ⟨part, -, rfl⟩ := List.mem_map.mp hslot
          simp [singleKeys, Section.slot]
      | card | modal | grid | tooltip =>
          simp only [slots, Layout.slots, List.mem_cons, List.not_mem_nil, or_false] at hslot
          rcases hslot with rfl | rfl | rfl <;> simp [singleKeys]
  | field | display | unknown => simp [slots] at hslot

/-- The first region of a key and what it holds. -/
theorem exists_slot_of_mem_regionKeys {body : Body Child} {region : String}
    (hregion : region ∈ body.regionKeys) :
    ∃ number content, body.regionKeys.findIdx? (· == region) = some number ∧
      body.slots[number]? = some ⟨region, content⟩ := by
  have hsome : (body.regionKeys.findIdx? (· == region)).isSome :=
    List.findIdx?_isSome.trans (List.any_eq_true.mpr ⟨region, hregion, beq_self_eq_true region⟩)
  obtain ⟨number, hnumber⟩ := Option.isSome_iff_exists.mp hsome
  obtain ⟨hlt, hkey, -⟩ := List.findIdx?_eq_some_iff_getElem.mp hnumber
  have hget : body.slots[number]?.map Slot.key = some region := by
    rw [← List.getElem?_map, slots_map_key, List.getElem?_eq_getElem hlt]
    exact congrArg some (eq_of_beq hkey)
  obtain ⟨⟨key, content⟩, hslot, hsame⟩ := Option.map_eq_some_iff.mp hget
  subst hsame
  exact ⟨number, content, hnumber, hslot⟩

end Body

namespace Node

variable {node : Node} {region : String} (index : Nat) (child : Node)

theorem findIdx?_slots (node : Node) (region : String) :
    (node.body.slots.findIdx? fun slot => slot.key == region) =
      node.body.regionKeys.findIdx? (· == region) := by
  rw [← Body.slots_map_key, List.findIdx?_map]
  rfl

theorem insertInRegion_of_notMem (hregion : region ∉ node.body.regionKeys) :
    node.insertInRegion region index child = .error (.regionNotFound region node.id.text) := by
  have hnone : node.body.regionKeys.findIdx? (· == region) = none := by
    rw [List.findIdx?_eq_none_iff]
    intro key hkey
    simpa using fun heq : key = region => hregion (heq ▸ hkey)
  rw [insertInRegion, findIdx?_slots, hnone]

theorem insertInRegion_of_single (hregion : region ∈ node.body.regionKeys)
    (hsingle : region ∈ node.body.singleKeys) :
    node.insertInRegion region index child = .error (.singleNodeRegion region node.id.text) := by
  obtain ⟨number, content, hnumber, hslot⟩ := Body.exists_slot_of_mem_regionKeys hregion
  have hother := (Body.key_mem_singleKeys_iff (List.mem_of_getElem? hslot)).mp hsingle
  rw [insertInRegion, findIdx?_slots, hnumber]
  simp only [hslot, Option.map_some]
  split
  · rename_i nodes hcontent
    exact absurd (Option.some.inj hcontent) (hother nodes)
  · rfl

theorem exists_insertInRegion_eq_ok (hregion : region ∈ node.body.regionKeys)
    (hsingle : region ∉ node.body.singleKeys) :
    ∃ number nodes, node.body.regionKeys.findIdx? (· == region) = some number ∧
      node.body.slots[number]? = some ⟨region, .sequence nodes⟩ ∧
      node.insertInRegion region index child =
        .ok (node.editSlot number (.inserting index child)) := by
  obtain ⟨number, content, hnumber, hslot⟩ := Body.exists_slot_of_mem_regionKeys hregion
  have hsequence := mt (Body.key_mem_singleKeys_iff (List.mem_of_getElem? hslot)).mpr hsingle
  push Not at hsequence
  obtain ⟨nodes, rfl⟩ := hsequence
  refine ⟨number, nodes, hnumber, hslot, ?_⟩
  rw [insertInRegion, findIdx?_slots, hnumber]
  simp only [hslot, Option.map_some]
  rfl

end Node

namespace Schema

/-! ## What refuses an insertion, and what it does -/

/-- An identifier of the new nodes is in the schema already or comes twice among them. -/
def Clashes (schema : Schema) (node : Node) : Prop :=
  (∃ id ∈ node.ids, id ∈ schema.ids) ∨ ¬node.ids.Nodup

/-- No node has the identifier of the container, or the first one that has it is without the
region. -/
def Misses (schema : Schema) (place : Insertion) : Prop :=
  ∃ parent, place.parent = some parent ∧
    (parent.nodeId ∉ schema.ids ∨
      ∃ held, schema.find? parent.nodeId = some held ∧ parent.region ∉ held.body.regionKeys)

/-- The region is one for a single node. -/
def MeetsSingle (schema : Schema) (place : Insertion) : Prop :=
  ∃ parent held, place.parent = some parent ∧ schema.find? parent.nodeId = some held ∧
    parent.region ∈ held.body.singleKeys

/-- The schema with the node in the addressed sequence; an index past the end means the end. -/
inductive TakenIn (schema : Schema) (node : Node) : Insertion → Schema → Prop where
  | root (index : Nat) :
      TakenIn schema node ⟨none, index⟩
        { schema with nodes := schema.nodes.insertIdx (min index schema.nodes.length) node }
  | region {parent : RegionRef} {index number : Nat} {holder : Place} {held : Node}
      {nodes : List Node} {edited : Schema}
      (hholder : schema.locate? parent.nodeId = some holder)
      (hheld : schema.at? holder = some held ∧ schema.find? parent.nodeId = some held)
      (hnumber : held.body.regionKeys.findIdx? (· == parent.region) = some number)
      (hdiffers : schema.DiffersInSlot holder number ⟨parent.region, .sequence nodes⟩
        ⟨parent.region, .sequence (nodes.insertIdx (min index nodes.length) node)⟩ edited) :
      TakenIn schema node ⟨some parent, index⟩ edited

variable {schema edited : Schema} {place : Insertion} {node : Node}

theorem firstRepeated?_ids_eq_none_iff :
    firstRepeated? schema.ids node.ids = none ↔ ¬schema.Clashes node := by
  rw [firstRepeated?_eq_none_iff, Clashes, not_or, not_not, and_comm]
  push Not
  rfl

theorem insert_of_clashes (hclashes : schema.Clashes node) (place : Insertion) :
    ∃ id, schema.insert place node = .error (.duplicateId id) := by
  cases hrepeated : firstRepeated? schema.ids node.ids with
  | none => exact absurd hclashes (firstRepeated?_ids_eq_none_iff.mp hrepeated)
  | some id => exact ⟨id, by rw [insert, hrepeated]⟩

/-- The walk with one block more. -/
def WalkTakesIn (schema : Schema) (node : Node) (edited : Schema) : Prop :=
  ∃ before after, schema.bareWalk = before ++ after ∧
    edited.bareWalk = before ++ node.bareWalk ++ after

theorem insert_root (hfresh : ¬schema.Clashes node) (index : Nat) :
    ∃ edited, schema.insert ⟨none, index⟩ node = .ok edited ∧
      schema.TakenIn node ⟨none, index⟩ edited ∧ schema.WalkTakesIn node edited := by
  refine ⟨{ schema with nodes := insertAt index node schema.nodes }, ?_, ?_, ?_⟩
  · rw [insert, firstRepeated?_ids_eq_none_iff.mpr hfresh]
  · rw [insertAt_eq_insertIdx]
    exact .root index
  · refine ⟨(schema.nodes.take index).flatMap Node.bareWalk,
      (schema.nodes.drop index).flatMap Node.bareWalk, ?_, ?_⟩
    · rw [bareWalk_eq_flatMap, ← List.flatMap_append, List.take_append_drop]
    · rw [bareWalk_eq_flatMap, insertAt, List.flatMap_append, List.flatMap_cons, List.append_assoc]

section Region

variable {parent : RegionRef} {index number : Nat} {holder : Place} {held : Node}
  {nodes : List Node}

/-- How an insertion into a region of a node that is there ends. -/
theorem insert_in_region (hfresh : ¬schema.Clashes node)
    (hholder : schema.locate? parent.nodeId = some holder) (hheld : schema.at? holder = some held)
    (index : Nat) :
    schema.insert ⟨some parent, index⟩ node =
      (held.insertInRegion parent.region index node).map fun changed =>
        schema.modifyAt holder fun _ => changed := by
  rw [insert, firstRepeated?_ids_eq_none_iff.mpr hfresh]
  simp only [hholder, hheld]
  cases held.insertInRegion parent.region index node <;> rfl

theorem takenIn_region (hholder : schema.locate? parent.nodeId = some holder)
    (hheld : schema.at? holder = some held ∧ schema.find? parent.nodeId = some held)
    (hnumber : held.body.regionKeys.findIdx? (· == parent.region) = some number)
    (hslot : held.body.slots[number]? = some ⟨parent.region, .sequence nodes⟩) :
    schema.TakenIn node ⟨some parent, index⟩
      (schema.modifyAt holder (Node.editSlot number (.inserting index node))) := by
  have hdiffers : schema.DiffersInSlot holder number ⟨parent.region, .sequence nodes⟩
      ⟨parent.region, .sequence (insertAt index node nodes)⟩ _ :=
    differsInSlot_modifyAt hheld.1 hslot (.inserting index node)
  rw [insertAt_eq_insertIdx] at hdiffers
  exact .region hholder hheld hnumber hdiffers

theorem walkTakesIn_region {key : String} (hheld : schema.at? holder = some held)
    (hslot : held.body.slots[number]? = some ⟨key, .sequence nodes⟩) :
    schema.WalkTakesIn node
      (schema.modifyAt holder (Node.editSlot number (.inserting index node))) := by
  obtain ⟨before, after, hwalk, hedit⟩ := exists_bareWalk_slot_split hheld hslot
  refine ⟨before ++ (nodes.take index).flatMap Node.bareWalk,
    (nodes.drop index).flatMap Node.bareWalk ++ after, ?_, ?_⟩
  · calc
      schema.bareWalk =
          before ++ (nodes.take index ++ nodes.drop index).flatMap Node.bareWalk ++ after := by
        rw [List.take_append_drop]
        exact hwalk
      _ = _ := by simp only [List.flatMap_append, List.append_assoc]
  · rw [hedit]
    simp [SlotContent.edit, SlotEdit.inserting, SlotContent.toList, insertAt]

end Region

/-- An insertion ends in one of four ways. -/
theorem insert_cases (schema : Schema) (place : Insertion) (node : Node) :
    (schema.Clashes node ∧ (schema.insert place node).FailsWith .conflict) ∨
    (¬schema.Clashes node ∧ schema.Misses place ∧ (schema.insert place node).FailsWith .notFound) ∨
    (¬schema.Clashes node ∧ ¬schema.Misses place ∧ schema.MeetsSingle place ∧
      (schema.insert place node).FailsWith .validation) ∨
    (¬schema.Clashes node ∧ ¬schema.Misses place ∧ ¬schema.MeetsSingle place ∧
      ∃ edited, schema.insert place node = .ok edited ∧ schema.TakenIn node place edited ∧
        schema.WalkTakesIn node edited) := by
  by_cases hclashes : schema.Clashes node
  · obtain ⟨id, hinsert⟩ := insert_of_clashes hclashes place
    exact Or.inl ⟨hclashes, _, hinsert, rfl⟩
  apply Or.inr
  obtain ⟨_ | parent, index⟩ := place
  · refine Or.inr (Or.inr ⟨hclashes, ?_, ?_, insert_root hclashes index⟩)
    · simp [Misses]
    · simp [MeetsSingle]
  cases hholder : schema.locate? parent.nodeId with
  | none =>
      refine Or.inl ⟨hclashes, ⟨parent, rfl, Or.inl (locate?_eq_none_iff.mp hholder)⟩, ?_⟩
      refine ⟨.containerNotFound parent.nodeId, ?_, rfl⟩
      rw [insert, firstRepeated?_ids_eq_none_iff.mpr hclashes]
      simp only [hholder]
  | some holder =>
      obtain ⟨held, hheld, hfind, hid⟩ := exists_find?_of_locate? hholder
      have hinsert := insert_in_region hclashes hholder hheld index
      have hmisses : schema.Misses ⟨some parent, index⟩ ↔
          parent.region ∉ held.body.regionKeys := by
        have hthere : parent.nodeId ∈ schema.ids := hid ▸ mem_ids_of_at? hheld
        simp [Misses, hthere, hfind]
      have hsingles : schema.MeetsSingle ⟨some parent, index⟩ ↔
          parent.region ∈ held.body.singleKeys := by
        simp [MeetsSingle, hfind]
      rw [hmisses, hsingles]
      by_cases hregion : parent.region ∈ held.body.regionKeys
      · by_cases hsingle : parent.region ∈ held.body.singleKeys
        · refine Or.inr (Or.inl ⟨hclashes, not_not.mpr hregion, hsingle, ?_⟩)
          rw [hinsert, Node.insertInRegion_of_single index node hregion hsingle]
          exact ⟨_, rfl, rfl⟩
        · obtain ⟨number, nodes, hnumber, hslot, hchanged⟩ :=
            Node.exists_insertInRegion_eq_ok index node hregion hsingle
          refine Or.inr (Or.inr ⟨hclashes, not_not.mpr hregion, hsingle, _, ?_,
            takenIn_region hholder ⟨hheld, hfind⟩ hnumber hslot, walkTakesIn_region hheld hslot⟩)
          rw [hinsert, hchanged]
          exact congrArg Except.ok (modifyAt_const hheld _)
      · refine Or.inl ⟨hclashes, hregion, ?_⟩
        rw [hinsert, Node.insertInRegion_of_notMem index node hregion]
        exact ⟨_, rfl, rfl⟩

/-- An insertion fails with a conflict exactly when identifiers clash, else with nothing found
exactly when the container or its region is missing, else with a refusal exactly when the region is
for a single node; no failure changes the schema.  Else it succeeds: the node stands in the addressed
sequence, all else is as it was, and the walk has the block of the new nodes more. -/
theorem insert_outcome (schema : Schema) (place : Insertion) (node : Node) :
    ((schema.insert place node).FailsWith .conflict ↔ schema.Clashes node) ∧
    ((schema.insert place node).FailsWith .notFound ↔
      ¬schema.Clashes node ∧ schema.Misses place) ∧
    ((schema.insert place node).FailsWith .validation ↔
      ¬schema.Clashes node ∧ ¬schema.Misses place ∧ schema.MeetsSingle place) ∧
    (∀ failure, schema.insert place node = .error failure →
      failure.kind ∈ [.conflict, .notFound, .validation] ∧
        (SchemaEdit.insert place node).perform schema = schema) ∧
    (¬schema.Clashes node → ¬schema.Misses place → ¬schema.MeetsSingle place →
      ∃ edited, schema.insert place node = .ok edited ∧ schema.TakenIn node place edited ∧
        schema.WalkTakesIn node edited) := by
  rcases insert_cases schema place node with
    ⟨hclashes, failure, hinsert, hkind⟩ | ⟨hclashes, hmisses, failure, hinsert, hkind⟩ |
    ⟨hclashes, hmisses, hsingle, failure, hinsert, hkind⟩ |
    ⟨hclashes, hmisses, hsingle, edited, hinsert, htaken⟩
  all_goals simp [SchemaEdit.perform, SchemaEdit.attempt, *]

end Schema

end Forms
