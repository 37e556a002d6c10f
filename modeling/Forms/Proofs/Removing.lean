import Forms.Proofs.Addressing
import Forms.Proofs.Inserting
import Forms.Proofs.Tree.Positions

/-!
# Removing a node

The search for a node to remove tells the truth: what it finds has the identifier and may be taken
out of where it stands, and a region that it names is filled by a node with the identifier.  Where
the identifier occurs once there is only one node to tell of, so the place of that node decides how
the removal ends.
-/

namespace Forms

variable {α β : Type}

/-- One child less in the sequence of a slot, or in one that may be empty. -/
def SlotEdit.erasing {Child : Type} (position : Nat) : SlotEdit Child :=
  ⟨fun nodes => nodes.eraseIdx position, fun _ => none, fun held => held⟩

/-- A list taken apart at one of its positions, before and after erasing it. -/
theorem exists_eraseIdx_split {items : List α} {position : Nat} {item : α}
    (hitem : items[position]? = some item) :
    ∃ before after, items = before ++ item :: after ∧
      items.eraseIdx position = before ++ after := by
  obtain ⟨hposition, rfl⟩ := List.getElem?_eq_some_iff.mp hitem
  refine ⟨items.take position, items.drop (position + 1), ?_, List.eraseIdx_eq_take_drop_succ ..⟩
  rw [List.getElem_cons_drop, List.take_append_drop]

theorem SlotContent.exists_erasing_split {content : SlotContent α} {position : Nat} {child : α}
    (hchild : content.toList[position]? = some child) (hfree : ¬content.IsRequired) :
    ∃ before after, content.toList = before ++ child :: after ∧
      (content.edit (.erasing position)).toList = before ++ after := by
  cases content with
  | sequence nodes => exact exists_eraseIdx_split hchild
  | optional node =>
      have hnode : node = some child := Option.mem_toList.mp (List.mem_of_getElem? hchild)
      subst hnode
      exact ⟨[], [], rfl, rfl⟩
  | required node => exact absurd trivial hfree

namespace Removal

/-- What the search tells is true. -/
inductive Tells (Frees : α → Prop) (Keeps : String → Prop) : Removal α → Prop where
  | absent : Tells Frees Keeps .absent
  | found {place : α} (hfrees : Frees place) : Tells Frees Keeps (.found place)
  | required {region : String} (hkeeps : Keeps region) : Tells Frees Keeps (.required region)

namespace Tells

variable {Frees : β → Prop} {Keeps : String → Prop}

theorem imp {Inside : β → Prop} {Held : String → Prop} {removal : Removal β}
    (h : removal.Tells Inside Held) (hfrees : ∀ place, Inside place → Frees place)
    (hkeeps : ∀ region, Held region → Keeps region) : removal.Tells Frees Keeps := by
  cases h with
  | absent => exact .absent
  | found hinside => exact .found (hfrees _ hinside)
  | required hheld => exact .required (hkeeps _ hheld)

theorem map {removal : Removal α} {f : α → β}
    (h : removal.Tells (fun place => Frees (f place)) Keeps) :
    (removal.map f).Tells Frees Keeps := by
  cases h with
  | absent => exact .absent
  | found hfrees => exact .found hfrees
  | required hkeeps => exact .required hkeeps

theorem frees {place : β} (h : (Removal.found place).Tells Frees Keeps) : Frees place := by
  cases h with
  | found hfrees => exact hfrees

theorem keeps {region : String} (h : (Removal.required region : Removal β).Tells Frees Keeps) :
    Keeps region := by
  cases h with
  | required hkeeps => exact hkeeps

theorem first {searches : List (Removal β)} (h : ∀ search ∈ searches, search.Tells Frees Keeps) :
    (Removal.first searches).Tells Frees Keeps := by
  induction searches with
  | nil => exact .absent
  | cons search searches ih =>
      rw [List.forall_mem_cons] at h
      cases search with
      | absent => exact ih h.2
      | found place => exact h.1
      | required region => exact h.1

end Tells

end Removal

/-- The child that a node cannot do without. -/
def Body.filler? {Child : Type} : Body Child → Option Child
  | .container (.modal trigger ..) => some trigger
  | .container (.tooltip _ child ..) => some child
  | _ => none

namespace Body

variable {Child : Type}

theorem exists_required_iff {body : Body Child} {child : Child} :
    (∃ key, (⟨key, .required child⟩ : Slot Child) ∈ body.slots) ↔ body.filler? = some child := by
  cases body with
  | container layout =>
      cases layout <;> simp [slots, Layout.slots, filler?, Section.slot, eq_comm]
  | field | display | unknown => simp [slots, filler?]

theorem key_of_optional {body : Body Child} {key : String} {child : Option Child}
    (hslot : (⟨key, .optional child⟩ : Slot Child) ∈ body.slots) :
    key = "header" ∨ key = "footer" := by
  cases body with
  | container layout =>
      cases layout <;> simp [slots, Layout.slots, Section.slot] at hslot
      tauto
  | field | display | unknown => simp [slots] at hslot

end Body

/-! ## The search -/

/-- The address leads to a node with the identifier that may be taken out of its slot. -/
def Node.Frees (id : String) (node : Node) (address : Address) : Prop :=
  ∃ target slot, node.at? address = some target ∧ target.id.text = id ∧
    node.slotAt? address = some slot ∧ ¬slot.content.IsRequired

/-- A node with the identifier fills a slot of the region that must stay filled. -/
def Node.Keeps (id : String) (node : Node) (region : String) : Prop :=
  ∃ address target, node.at? address = some target ∧ target.id.text = id ∧
    node.slotAt? address = some ⟨region, .required target⟩

theorem Node.eraseAt_append_singleton (above : Address) (step : Step) :
    Node.eraseAt (above ++ [step]) =
      Node.modifyAt (Node.editSlot step.slot (.erasing step.position)) above := by
  induction above with
  | nil => rfl
  | cons first above ih =>
      funext node
      have hnext : (first :: above ++ [step] : Address) = first :: (above ++ [step]) := rfl
      rw [hnext, eraseAt, ih, modifyAt]
      simp

namespace Candidate

variable {id : String} {Frees : Nat × Address → Prop} {Keeps : String → Prop}

theorem tells_seek {nodes : List Node}
    (hmember : ∀ position node, nodes[position]? = some node → node.id.text = id →
      Frees (position, []))
    (hinside : ∀ position node, nodes[position]? = some node →
      (ofNode id node).inside.Tells (fun address => Frees (position, address)) Keeps) :
    (seek id (nodes.map (ofNode id))).Tells Frees Keeps := by
  rw [seek, findIdx?_map_ofNode]
  cases hposition : nodes.findIdx? fun node => node.id.text == id with
  | some position =>
      obtain ⟨hlt, hid, -⟩ := List.findIdx?_eq_some_iff_getElem.mp hposition
      exact .found (hmember position _ (List.getElem?_eq_getElem hlt) (by simpa using hid))
  | none =>
      apply Removal.Tells.first
      rw [List.forall_mem_map, List.zipIdx_map, List.forall_mem_map]
      rintro ⟨node, position⟩ hnode
      rw [List.mem_zipIdx_iff_getElem?] at hnode
      exact (hinside position node hnode).map

theorem tells_seekSlot {slot : Slot Node}
    (hmember : ¬slot.content.IsRequired → ∀ position child,
      slot.content.toList[position]? = some child → child.id.text = id → Frees (position, []))
    (hrequired : ∀ child, slot.content = .required child → child.id.text = id → Keeps slot.key)
    (hinside : ∀ position child, slot.content.toList[position]? = some child →
      (ofNode id child).inside.Tells (fun address => Frees (position, address)) Keeps) :
    (seekSlot id (slot.map (ofNode id))).Tells Frees Keeps := by
  obtain ⟨key, content⟩ := slot
  cases content with
  | sequence nodes => exact tells_seek (hmember not_false) hinside
  | optional node =>
      rw [seekSlot_optional]
      exact tells_seek (hmember not_false) hinside
  | required node =>
      simp only [Slot.map, SlotContent.map, seekSlot, id_ofNode]
      split
      · rename_i hid
        exact .required (hrequired node rfl hid)
      · exact (hinside 0 node rfl).map

theorem tells_inside (id : String) (node : Node) :
    (ofNode id node).inside.Tells (node.Frees id) (node.Keeps id) := by
  induction node using Node.induct with
  | node node ih =>
      rw [inside_ofNode, seekBody, Body.slots_map]
      apply Removal.Tells.first
      rw [List.forall_mem_map, List.zipIdx_map, List.forall_mem_map]
      rintro ⟨slot, number⟩ hslot
      rw [List.mem_zipIdx_iff_getElem?] at hslot
      have hchild : ∀ position child, slot.content.toList[position]? = some child →
          node.body.child? ⟨number, position⟩ = some child := fun position child hheld =>
        Body.child?_eq_some_iff.mpr ⟨slot, hslot, hheld⟩
      have hsearch : (seekSlot id (slot.map (ofNode id))).Tells
          (fun place => node.Frees id (⟨number, place.1⟩ :: place.2)) (node.Keeps id) := by
        apply tells_seekSlot
        · intro hfree position child hheld hid
          refine ⟨child, slot, ?_, hid, hslot, hfree⟩
          rw [Node.at?, hchild position child hheld]
          rfl
        · intro child hcontent hid
          obtain ⟨key, content⟩ := slot
          cases hcontent
          refine ⟨[⟨number, 0⟩], child, ?_, hid, hslot⟩
          rw [Node.at?, hchild 0 child rfl]
          rfl
        · intro position child hheld
          have hstep := hchild position child hheld
          apply (ih child (Body.mem_children_of_child? hstep)).imp
          · rintro address ⟨target, held, htarget, hid, hstands, hfree⟩
            refine ⟨target, held, ?_, hid, Node.slotAt?_cons hstep hstands, hfree⟩
            rw [Node.at?, hstep, Option.bind_some, htarget]
          · rintro region ⟨address, target, htarget, hid, hstands⟩
            refine ⟨⟨number, position⟩ :: address, target, ?_, hid,
              Node.slotAt?_cons hstep hstands⟩
            rw [Node.at?, hstep, Option.bind_some, htarget]
      exact hsearch.map

end Candidate

namespace Schema

/-- At the place stands a node with the identifier that may be taken out of where it stands. -/
def Frees (schema : Schema) (id : String) (place : Place) : Prop :=
  ∃ target, schema.at? place = some target ∧ target.id.text = id ∧
    ∀ slot ∈ schema.slotAt? place, ¬slot.content.IsRequired

/-- A node with the identifier fills a slot of the region that must stay filled. -/
def Keeps (schema : Schema) (id region : String) : Prop :=
  ∃ place target, schema.at? place = some target ∧ target.id.text = id ∧
    schema.slotAt? place = some ⟨region, .required target⟩

theorem tells_removal (schema : Schema) (id : String) :
    (schema.removal id).Tells (schema.Frees id) (schema.Keeps id) := by
  rw [removal]
  have hseek : (Candidate.seek id (schema.nodes.map (Candidate.ofNode id))).Tells
      (fun found => schema.Frees id ⟨found.1, found.2⟩) (schema.Keeps id) := by
    apply Candidate.tells_seek
    · intro position node hnode hid
      refine ⟨node, ?_, hid, ?_⟩
      · rw [at?, hnode]
        rfl
      · simp [slotAt?, hnode, Node.slotAt?]
    · intro position node hnode
      apply (Candidate.tells_inside id node).imp
      · rintro address ⟨target, slot, htarget, hid, hslot, hfree⟩
        refine ⟨target, ?_, hid, ?_⟩
        · rw [at?, hnode, Option.bind_some, htarget]
        · rw [slotAt?, hnode, Option.bind_some, hslot]
          rintro _ ⟨⟩
          exact hfree
      · rintro region ⟨address, target, htarget, hid, hslot⟩
        refine ⟨⟨position, address⟩, target, ?_, hid, ?_⟩
        · rw [at?, hnode, Option.bind_some, htarget]
        · rw [slotAt?, hnode, Option.bind_some, hslot]
  exact hseek.map

theorem removal_eq_absent_iff {schema : Schema} {id : String} :
    schema.removal id = .absent ↔ id ∉ schema.ids := by
  have hfollows := follows_removal schema id
  rw [← locate?_eq_none_iff]
  cases hremoval : schema.removal id <;> cases hlocate : schema.locate? id <;>
    rw [hremoval, hlocate] at hfollows <;> simp
  all_goals cases hfollows

variable {schema edited : Schema} {place : Place} {target : Node}

/-- Where the identifier of a node occurs once, the slot of the node decides what its search tells:
a node in a slot that must stay filled is kept, any other is found. -/
theorem removal_eq (htarget : schema.at? place = some target)
    (hcount : schema.ids.count target.id.text ≤ 1) :
    (∃ region, schema.slotAt? place = some ⟨region, .required target⟩ ∧
      schema.removal target.id.text = .required region) ∨
    ((∀ slot ∈ schema.slotAt? place, ¬slot.content.IsRequired) ∧
      schema.removal target.id.text = .found place) := by
  have htells := schema.tells_removal target.id.text
  cases hremoval : schema.removal target.id.text with
  | absent =>
      exact absurd (mem_ids_of_at? htarget) (removal_eq_absent_iff.mp hremoval)
  | found other =>
      rw [hremoval] at htells
      obtain ⟨met, hmet, hid, hfree⟩ := htells.frees
      cases eq_of_at? htarget hmet ⟨rfl, hid⟩ hcount
      exact Or.inr ⟨hfree, rfl⟩
  | required region =>
      rw [hremoval] at htells
      obtain ⟨other, met, hmet, hid, hslot⟩ := htells.keeps
      cases eq_of_at? htarget hmet ⟨rfl, hid⟩ hcount
      cases htarget.symm.trans hmet
      exact Or.inl ⟨region, hslot, rfl⟩

/-! ## What a removal does -/

/-- The node fills a slot that must stay filled: it is the trigger of a modal or what a tooltip is
about. -/
def Fills (schema : Schema) (id : String) : Prop :=
  ∃ holder ∈ schema.walk, ∃ filler, holder.body.filler? = some filler ∧ filler.id.text = id

/-- The schema without the node, which stood among the roots, in a sequence, or in the header or
footer of a card. -/
inductive TakenOut (schema : Schema) (removed : Node) : Schema → Prop where
  | root {position : Nat} (hroot : schema.nodes[position]? = some removed) :
      TakenOut schema removed { schema with nodes := schema.nodes.eraseIdx position }
  | sequence {holder : Place} {number position : Nat} {key : String} {nodes : List Node}
      {rest : Schema} (hmember : nodes[position]? = some removed)
      (hdiffers : schema.DiffersInSlot holder number ⟨key, .sequence nodes⟩
        ⟨key, .sequence (nodes.eraseIdx position)⟩ rest) : TakenOut schema removed rest
  | optional {holder : Place} {number : Nat} {key : String} {rest : Schema}
      (hkey : key = "header" ∨ key = "footer")
      (hdiffers : schema.DiffersInSlot holder number ⟨key, .optional (some removed)⟩
        ⟨key, .optional none⟩ rest) : TakenOut schema removed rest

theorem eraseAt_below (schema : Schema) (root : Nat) (above : Address) (step : Step) :
    schema.eraseAt ⟨root, above ++ [step]⟩ =
      schema.modifyAt ⟨root, above⟩ (Node.editSlot step.slot (.erasing step.position)) := by
  simp only [eraseAt]
  split
  · rename_i hnil
    simp at hnil
  · rw [Node.eraseAt_append_singleton]
    rfl

theorem remove_eq_ok_of_found {id : String} (hremoval : schema.removal id = .found place)
    (htarget : schema.at? place = some target) :
    schema.remove id = .ok (target, schema.eraseAt place) := by
  rw [remove, hremoval]
  simp only [htarget]

/-- A node whose identifier occurs once is removed from where it need not stay. -/
theorem remove_of_at? (htarget : schema.at? place = some target)
    (hcount : schema.ids.count target.id.text ≤ 1)
    (hfree : ∀ slot ∈ schema.slotAt? place, ¬slot.content.IsRequired) :
    schema.remove target.id.text = .ok (target, schema.eraseAt place) := by
  rcases removal_eq htarget hcount with ⟨region, hslot, -⟩ | ⟨-, hremoval⟩
  · exact absurd trivial (hfree _ hslot)
  · exact remove_eq_ok_of_found hremoval htarget

/-- Erasing a node from where it need not stay takes a root away or edits the slot that held it. -/
theorem eraseAt_cases (htarget : schema.at? place = some target)
    (hfree : ∀ slot ∈ schema.slotAt? place, ¬slot.content.IsRequired) :
    (∃ position, schema.nodes[position]? = some target ∧
      schema.eraseAt place = { schema with nodes := schema.nodes.eraseIdx position }) ∨
    (∃ holder held number slot position, schema.at? holder = some held ∧
      held.body.slots[number]? = some slot ∧ slot.content.toList[position]? = some target ∧
      ¬slot.content.IsRequired ∧
      schema.eraseAt place = schema.modifyAt holder (Node.editSlot number (.erasing position))) := by
  have hstands := stands htarget
  generalize schema.slotAt? place = stood at hfree hstands
  cases hstands with
  | root hroot => exact Or.inl ⟨_, hroot, rfl⟩
  | held hheld hslot hchild =>
      exact Or.inr ⟨_, _, _, _, _, hheld, hslot, hchild, hfree _ rfl, eraseAt_below ..⟩

theorem takenOut_eraseAt (htarget : schema.at? place = some target)
    (hfree : ∀ slot ∈ schema.slotAt? place, ¬slot.content.IsRequired) :
    schema.TakenOut target (schema.eraseAt place) := by
  rcases eraseAt_cases htarget hfree with ⟨position, hroot, herased⟩ |
    ⟨holder, held, number, ⟨key, content⟩, position, hheld, hslot, hchild, hkept, herased⟩
  · rw [herased]
    exact .root hroot
  · have hdiffers := differsInSlot_modifyAt hheld hslot (.erasing position)
    rw [← herased] at hdiffers
    cases content with
    | sequence nodes => exact .sequence hchild hdiffers
    | optional node =>
        have hnode : node = some target := Option.mem_toList.mp (List.mem_of_getElem? hchild)
        subst hnode
        exact .optional (Body.key_of_optional (List.mem_of_getElem? hslot)) hdiffers
    | required node => exact absurd trivial hkept

theorem walkTakesIn_eraseAt (htarget : schema.at? place = some target)
    (hfree : ∀ slot ∈ schema.slotAt? place, ¬slot.content.IsRequired) :
    (schema.eraseAt place).WalkTakesIn target schema := by
  rcases eraseAt_cases htarget hfree with ⟨position, hroot, herased⟩ |
    ⟨holder, held, number, slot, position, hheld, hslot, hchild, hkept, herased⟩
  · obtain ⟨before, after, hnodes, hrest⟩ := exists_eraseIdx_split hroot
    refine ⟨before.flatMap Node.bareWalk, after.flatMap Node.bareWalk, ?_, ?_⟩
    · rw [herased, ← List.flatMap_append, ← hrest]
      exact bareWalk_eq_flatMap _
    · rw [bareWalk_eq_flatMap, hnodes, List.flatMap_append, List.flatMap_cons, List.append_assoc]
  · obtain ⟨before, after, hwalk, hedit⟩ := exists_bareWalk_slot_split hheld hslot
    obtain ⟨first, last, hchildren, hrest⟩ := SlotContent.exists_erasing_split hchild hkept
    refine ⟨before ++ first.flatMap Node.bareWalk, last.flatMap Node.bareWalk ++ after, ?_, ?_⟩
    · rw [herased, hedit, hrest]
      simp only [List.flatMap_append, List.append_assoc]
    · rw [hwalk, hchildren]
      simp only [List.flatMap_append, List.flatMap_cons, List.append_assoc]

theorem fills_iff_keeps {id : String} : schema.Fills id ↔ ∃ region, schema.Keeps id region := by
  constructor
  · rintro ⟨holder, hholder, filler, hfiller, hid⟩
    obtain ⟨⟨root, above⟩, hat⟩ := mem_walk_iff.mp hholder
    obtain ⟨region, hslot⟩ := Body.exists_required_iff.mpr hfiller
    obtain ⟨number, hnumber⟩ := List.getElem?_of_mem hslot
    have hchild : holder.body.child? ⟨number, 0⟩ = some filler :=
      Body.child?_eq_some_iff.mpr ⟨_, hnumber, rfl⟩
    refine ⟨region, ⟨root, above ++ [⟨number, 0⟩]⟩, filler, ?_, hid, ?_⟩
    · rw [at?_below hat, Node.at?, hchild]
      rfl
    · rw [slotAt?_below hat, hnumber]
  · rintro ⟨region, place, filler, hfiller, hid, hslot⟩
    have hstands := stands hfiller
    rw [hslot] at hstands
    obtain _ | ⟨hholder, hmem, -⟩ := hstands
    exact ⟨_, mem_walk_of_at? hholder, filler,
      Body.exists_required_iff.mp ⟨region, List.mem_of_getElem? hmem⟩, hid⟩

/-- A removal from a schema without repeated identifiers ends in one of three ways. -/
theorem remove_cases (hdistinct : schema.ids.Nodup) (id : String) :
    (id ∉ schema.ids ∧ ¬schema.Fills id ∧ (schema.remove id).FailsWith .notFound) ∨
    (id ∈ schema.ids ∧ schema.Fills id ∧ (schema.remove id).FailsWith .validation) ∨
    (id ∈ schema.ids ∧ ¬schema.Fills id ∧ ∃ removed rest, schema.remove id = .ok (removed, rest) ∧
      schema.find? id = some removed ∧ schema.TakenOut removed rest ∧
      rest.WalkTakesIn removed schema) := by
  rw [fills_iff_keeps]
  have hcount := List.nodup_iff_count_le_one.mp hdistinct id
  by_cases hthere : id ∈ schema.ids
  · apply Or.inr
    obtain ⟨place, target, -, htarget, hfind, rfl⟩ := exists_place_of_mem_ids hthere
    rcases removal_eq htarget hcount with ⟨region, hslot, hremoval⟩ | ⟨hfree, hremoval⟩
    · refine Or.inl ⟨hthere, ⟨region, place, target, htarget, rfl, hslot⟩, ?_⟩
      refine ⟨.requiredRegion target.id.text region, ?_, rfl⟩
      rw [remove, hremoval]
    · refine Or.inr ⟨hthere, ?_, target, _, remove_eq_ok_of_found hremoval htarget, hfind,
        takenOut_eraseAt htarget hfree, walkTakesIn_eraseAt htarget hfree⟩
      rintro ⟨region, other, filler, hfiller, hid, hslot⟩
      cases eq_of_at? htarget hfiller ⟨rfl, hid⟩ hcount
      exact hfree _ hslot trivial
  · refine Or.inl ⟨hthere, ?_, .nodeNotFound id, ?_, rfl⟩
    · rintro ⟨region, place, filler, hfiller, rfl, -⟩
      exact hthere (mem_ids_of_at? hfiller)
    · rw [remove, removal_eq_absent_iff.mpr hthere]

/-- Where identifiers do not repeat, a removal fails with nothing found exactly when no node has the
identifier, and with a refusal exactly when the node fills a slot that must stay filled; no failure
changes the schema.  Else it gives the node with all it holds, only the slot that held it has
changed, and the walk has the block of the removed nodes less. -/
theorem remove_outcome (hdistinct : schema.ids.Nodup) (id : String) :
    ((schema.remove id).FailsWith .notFound ↔ id ∉ schema.ids) ∧
    ((schema.remove id).FailsWith .validation ↔ schema.Fills id) ∧
    (∀ failure, schema.remove id = .error failure →
      failure.kind ∈ [.notFound, .validation] ∧
        (SchemaEdit.remove id).perform schema = schema) ∧
    (id ∈ schema.ids → ¬schema.Fills id →
      ∃ removed rest, schema.remove id = .ok (removed, rest) ∧ schema.find? id = some removed ∧
        schema.TakenOut removed rest ∧ rest.WalkTakesIn removed schema) := by
  rcases remove_cases hdistinct id with
    ⟨hthere, hfills, failure, hremove, hkind⟩ | ⟨hthere, hfills, failure, hremove, hkind⟩ |
    ⟨hthere, hfills, removed, rest, hremove, htaken⟩
  all_goals simp [SchemaEdit.perform, SchemaEdit.attempt, Except.map, *]

/-- A dialog with a trigger, and a node in what it shows. -/
def dialog : Schema := ofNodes
  [⟨⟨"dialog", by decide⟩, none, none, none, none, .container
    (.modal (blip ⟨"open", by decide⟩) none [blip ⟨"text", by decide⟩] none none)⟩]

theorem remove_outcome_dialog :
    dialog.ids.Nodup ∧ (dialog.remove "open").FailsWith .validation ∧
      ∃ removed rest, dialog.remove "text" = .ok (removed, rest) := by
  have hdistinct : dialog.ids.Nodup := by decide
  have hfills (id : String) : dialog.Fills id ↔ id = "open" := by
    simp [Fills, dialog, ofNodes, walk, Node.walk_eq, Body.children, Body.regions, Layout.regions,
      blip, Body.filler?, eq_comm]
  refine ⟨hdistinct, (remove_outcome hdistinct "open").2.1.mpr ((hfills _).mpr rfl), ?_⟩
  obtain ⟨removed, rest, hremove, -⟩ := (remove_outcome hdistinct "text").2.2.2 (by decide)
    (mt (hfills _).mp (by decide))
  exact ⟨removed, rest, hremove⟩

end Schema

end Forms
