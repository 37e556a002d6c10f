import Forms.Proofs.Tree.Edits
import Forms.Proofs.Tree.Search

/-!
# What an edit at an address leaves as it is

Changing the node at an address changes that node and what the nodes around it hold, and nothing
else.  Every node beside the address is the same afterwards, and a node around it keeps its shell:
its own members, and where its children stand.  When the node that is changed is the first one of
its identifier, it is so afterwards.
-/

namespace Forms

variable {Child Result : Type}

/-- The numbered items of a list taken apart at one of them, before and after a change there. -/
theorem exists_zipIdx_split {items : List Child} {position : Nat} {item : Child}
    (hitem : items[position]? = some item) :
    ∃ before after, items.zipIdx = before ++ (item, position) :: after ∧
      ∀ change, (items.modify position change).zipIdx =
        before ++ (change item, position) :: after := by
  obtain ⟨hposition, rfl⟩ := List.getElem?_eq_some_iff.mp hitem
  have hlength : 0 + (items.take position).length = position := by
    rw [Nat.zero_add, List.length_take_of_le hposition.le]
  refine ⟨(items.take position).zipIdx, (items.drop (position + 1)).zipIdx (position + 1),
    ?_, fun change => ?_⟩
  · calc
      items.zipIdx = (items.take position ++ items.drop position).zipIdx := by
        rw [List.take_append_drop]
      _ = (items.take position).zipIdx ++
          (items[position] :: items.drop (position + 1)).zipIdx position := by
        rw [List.zipIdx_append, hlength, List.getElem_cons_drop]
      _ = _ := by rw [List.zipIdx_cons]
  · rw [List.modify_eq_take_cons_drop hposition, List.zipIdx_append, hlength, List.zipIdx_cons]

/-! ## Editing one slot -/

namespace Layout

theorem editSlot_editSlot (layout : Layout Child) (number : Nat) (first second : SlotEdit Child) :
    (layout.editSlot number first).editSlot number second =
      layout.editSlot number ⟨second.sequence ∘ first.sequence, second.optional ∘ first.optional,
        second.required ∘ first.required⟩ := by
  cases layout with
  | tabs | stepper | accordion =>
      simp only [editSlot, List.modify_modify_eq]
      rfl
  | card | modal | grid | tooltip => rcases number with _ | _ | _ | number <;> rfl

/-- An edit that gives back what the slot holds gives back the layout. -/
theorem editSlot_eq_self {layout : Layout Child} {number : Nat} {edit : SlotEdit Child}
    (hedit : ∀ slot ∈ layout.slots[number]?, slot.content.edit edit = slot.content) :
    layout.editSlot number edit = layout := by
  have hsections {Extras : Type} (scope : String) (sections : List (Section Extras Child))
      (hslots : ∀ slot ∈ (sections.map (·.slot scope))[number]?,
        slot.content.edit edit = slot.content) :
      sections.modify number (·.edit edit.sequence) = sections := by
    apply List.ext_getElem?
    intro place
    rw [List.getElem?_modify]
    cases hpart : sections[place]? with
    | none => rfl
    | some part =>
        split
        · rename_i hplace
          have hsame := hslots (part.slot scope) (by simp [hplace, hpart])
          have hcontent : edit.sequence part.content = part.content :=
            SlotContent.sequence.inj hsame
          change some (part.edit edit.sequence) = some part
          rw [Section.edit, hcontent]
        · rfl
  cases layout with
  | tabs sections => exact congrArg (tabs · _) (hsections "tab" sections hedit)
  | stepper steps => exact congrArg (stepper · _ _) (hsections "step" steps hedit)
  | accordion panels => exact congrArg (accordion · _ _) (hsections "panel" panels hedit)
  | card | modal | grid | tooltip =>
      rcases number with _ | _ | _ | number <;>
        simp_all [slots, editSlot, SlotContent.edit]

/-- An edit that cannot be seen in any content cannot be seen in the layout. -/
theorem map_editSlot {f : Child → Result} {edit : SlotEdit Child}
    (hsequence : ∀ nodes, (edit.sequence nodes).map f = nodes.map f)
    (hoptional : ∀ node, (edit.optional node).map f = node.map f)
    (hrequired : ∀ node, f (edit.required node) = f node) (layout : Layout Child) (number : Nat) :
    (layout.editSlot number edit).map f = layout.map f := by
  have hsections {Extras : Type} (sections : List (Section Extras Child)) :
      (sections.modify number (·.edit edit.sequence)).map (·.map f) = sections.map (·.map f) := by
    apply map_modify_eq_map
    intro part
    simp [Section.edit, Section.map, hsequence]
  cases layout with
  | tabs sections => exact congrArg (tabs · _) (hsections sections)
  | stepper steps => exact congrArg (stepper · _ _) (hsections steps)
  | accordion panels => exact congrArg (accordion · _ _) (hsections panels)
  | card | modal | grid | tooltip =>
      rcases number with _ | _ | _ | number <;>
        simp [editSlot, map, hsequence, hoptional, hrequired]

end Layout

/-- Changing a child into itself gives back what the slot holds. -/
theorem SlotContent.edit_modify_eq_self {content : SlotContent Child} {position : Nat}
    {child : Child} (hchild : content.toList[position]? = some child) {change : Child → Child}
    (hchange : change child = child) :
    content.edit ⟨fun nodes => nodes.modify position change, Option.map change, change⟩ =
      content := by
  cases content with
  | sequence nodes =>
      obtain ⟨before, after, hnodes, hmodify⟩ := exists_modify_split hchild
      apply congrArg sequence
      calc
        nodes.modify position change = before ++ change child :: after := hmodify change
        _ = nodes := by rw [hchange]; exact hnodes.symm
  | optional node =>
      cases node with
      | none => simp [toList] at hchild
      | some node => cases position <;> simp_all [toList, edit]
  | required node => cases position <;> simp_all [toList, edit]

namespace Body

theorem editSlot_editSlot (body : Body Child) (number : Nat) (first second : SlotEdit Child) :
    (body.editSlot number first).editSlot number second =
      body.editSlot number ⟨second.sequence ∘ first.sequence, second.optional ∘ first.optional,
        second.required ∘ first.required⟩ := by
  cases body with
  | container layout => exact congrArg container (layout.editSlot_editSlot number first second)
  | field | display | unknown => rfl

theorem editSlot_eq_self {body : Body Child} {number : Nat} {edit : SlotEdit Child}
    (hedit : ∀ slot ∈ body.slots[number]?, slot.content.edit edit = slot.content) :
    body.editSlot number edit = body := by
  cases body with
  | container layout => exact congrArg container (Layout.editSlot_eq_self hedit)
  | field | display | unknown => rfl

/-! ## Changing one child -/

theorem modifyChild_modifyChild (body : Body Child) (step : Step) (first second : Child → Child) :
    (body.modifyChild step first).modifyChild step second =
      body.modifyChild step (second ∘ first) := by
  rw [modifyChild, modifyChild, editSlot_editSlot, modifyChild]
  congr 2
  · funext nodes
    exact List.modify_modify_eq ..
  · funext node
    exact Option.map_map ..

theorem child?_eq_some_iff {body : Body Child} {step : Step} {child : Child} :
    body.child? step = some child ↔
      ∃ slot, body.slots[step.slot]? = some slot ∧
        slot.content.toList[step.position]? = some child := by
  rw [child?]
  cases body.slots[step.slot]? with
  | none => simp
  | some slot => simp

theorem modifyChild_eq_self {body : Body Child} {step : Step} {child : Child}
    (hchild : body.child? step = some child) {change : Child → Child}
    (hchange : change child = child) : body.modifyChild step change = body := by
  obtain ⟨slot, hslot, hheld⟩ := child?_eq_some_iff.mp hchild
  apply editSlot_eq_self
  rw [hslot]
  rintro _ ⟨⟩
  exact SlotContent.edit_modify_eq_self hheld hchange

theorem child?_modifyChild {body : Body Child} {step : Step} {child : Child}
    (hchild : body.child? step = some child) (change : Child → Child) (other : Step) :
    (body.modifyChild step change).child? other =
      if other = step then some (change child) else body.child? other := by
  obtain ⟨slot, hslot, hheld⟩ := child?_eq_some_iff.mp hchild
  rw [child?, child?, modifyChild, slots_editSlot, List.getElem?_modify]
  by_cases hnumber : step.slot = other.slot
  · rw [← hnumber, hslot]
    have hheld' := SlotContent.toList_edit_modify hheld change
    have hstep : other = step ↔ step.position = other.position := by
      cases other
      cases step
      simp_all [eq_comm]
    simp only [if_true, Option.map_eq_map, Option.map_some, Slot.edit, hheld', List.getElem?_modify,
      hstep]
    split
    · rename_i hposition
      rw [← hposition, hheld, Option.map_some]
    · exact Option.map_id' ..
  · have hstep : other ≠ step := fun heq => hnumber (congrArg Step.slot heq).symm
    simp [hnumber, hstep]

/-- The step to a child taken out of all steps, before and after a change of the child. -/
theorem exists_steps_split {body : Body Child} {step : Step} {child : Child}
    (hchild : body.child? step = some child) :
    ∃ before after, body.steps = before ++ (step, child) :: after ∧
      ∀ change, (body.modifyChild step change).steps =
        before ++ (step, change child) :: after := by
  obtain ⟨slot, hslot, hheld⟩ := child?_eq_some_iff.mp hchild
  obtain ⟨first, last, hslots, hedit⟩ := exists_zipIdx_split hslot
  obtain ⟨before, after, hchildren, hmodify⟩ := exists_zipIdx_split hheld
  let stepTo (number : Nat) (place : Child × Nat) : Step × Child := (⟨number, place.2⟩, place.1)
  let stepsOf (place : Slot Child × Nat) : List (Step × Child) :=
    place.1.content.toList.zipIdx.map (stepTo place.2)
  have hsteps (body : Body Child) : body.steps = body.slots.zipIdx.flatMap stepsOf := rfl
  have hhere (change : Child → Child) :
      stepsOf (slot.edit ⟨fun nodes => nodes.modify step.position change, Option.map change,
          change⟩, step.slot) =
        before.map (stepTo step.slot) ++ (step, change child) :: after.map (stepTo step.slot) := by
    change ((slot.content.edit _).toList.zipIdx.map (stepTo step.slot)) = _
    rw [SlotContent.toList_edit_modify hheld, hmodify, List.map_append, List.map_cons]
  refine ⟨first.flatMap stepsOf ++ before.map (stepTo step.slot),
    after.map (stepTo step.slot) ++ last.flatMap stepsOf, ?_, fun change => ?_⟩
  · have hslot : stepsOf (slot, step.slot) =
        before.map (stepTo step.slot) ++ (step, child) :: after.map (stepTo step.slot) := by
      change (slot.content.toList.zipIdx.map (stepTo step.slot)) = _
      rw [hchildren, List.map_append, List.map_cons]
    rw [hsteps, hslots, List.flatMap_append, List.flatMap_cons, hslot]
    simp only [List.append_assoc, List.cons_append]
  · rw [hsteps, modifyChild, slots_editSlot, hedit, List.flatMap_append, List.flatMap_cons, hhere]
    simp only [List.append_assoc, List.cons_append]

/-- Changing a child leaves the members of the body and the places of its children. -/
theorem map_modifyChild_unit (body : Body Child) (step : Step) (change : Child → Child) :
    (body.modifyChild step change).map (fun _ => ()) = body.map fun _ => () := by
  cases body with
  | container layout =>
      apply congrArg container
      apply Layout.map_editSlot
      · intro nodes
        rw [List.map_const', List.map_const', List.length_modify]
      · intro node
        cases node <;> rfl
      · exact fun _ => rfl
  | field | display | unknown => rfl

end Body

namespace Node

variable {change : Node → Node} {address other rest : Address} {node target : Node}

/-- The node with nothing said of what its children are, but with their places. -/
def shell (node : Node) : Shell :=
  ⟨node.id, node.visibleIf, node.style, node.className, node.styleConfig,
    node.body.map fun _ => ()⟩

theorem shell_modifyAt_cons (change : Node → Node) (step : Step) (address : Address) (node : Node) :
    (node.modifyAt change (step :: address)).shell = node.shell := by
  rw [modifyAt, shell, Body.map_modifyChild_unit]
  rfl

theorem at?_append (first second : Address) (node : Node) :
    node.at? (first ++ second) = (node.at? first).bind fun target => target.at? second := by
  induction first generalizing node with
  | nil => rfl
  | cons step first ih =>
      rw [List.cons_append, at?, at?, Option.bind_assoc]
      apply congrArg
      funext child
      exact ih child

theorem modifyAt_modifyAt (first second : Node → Node) (address : Address) (node : Node) :
    (node.modifyAt first address).modifyAt second address =
      node.modifyAt (second ∘ first) address := by
  induction address generalizing node with
  | nil => rfl
  | cons step address ih =>
      have hinside : modifyAt second address ∘ modifyAt first address =
          modifyAt (second ∘ first) address := funext ih
      rw [modifyAt, modifyAt, modifyAt, Body.modifyChild_modifyChild, hinside]

theorem modifyAt_eq_self (htarget : node.at? address = some target)
    (hchange : change target = target) : node.modifyAt change address = node := by
  induction address generalizing node with
  | nil =>
      cases htarget
      exact hchange
  | cons step address ih =>
      obtain ⟨child, hchild, hinside⟩ := Option.bind_eq_some_iff.mp htarget
      rw [modifyAt, Body.modifyChild_eq_self hchild (ih hinside)]
      cases node
      rfl

/-- What stands at an address and below it after a change there. -/
theorem at?_modifyAt_append (htarget : node.at? address = some target) (rest : Address) :
    (node.modifyAt change address).at? (address ++ rest) = (change target).at? rest := by
  induction address generalizing node with
  | nil =>
      cases htarget
      rfl
  | cons step address ih =>
      obtain ⟨child, hchild, hinside⟩ := Option.bind_eq_some_iff.mp htarget
      rw [List.cons_append, at?, modifyAt, Body.child?_modifyChild hchild, if_pos rfl,
        Option.bind_some, ih hinside]

/-- A node around the address is changed at what is left of the address. -/
theorem at?_modifyAt_above (htarget : node.at? (address ++ rest) = some target) :
    (node.modifyAt change (address ++ rest)).at? address =
      (node.at? address).map (modifyAt change rest) := by
  induction address generalizing node with
  | nil => rfl
  | cons step address ih =>
      obtain ⟨child, hchild, hinside⟩ := Option.bind_eq_some_iff.mp htarget
      rw [List.cons_append, at?, modifyAt, Body.child?_modifyChild hchild, if_pos rfl, at?, hchild,
        Option.bind_some, Option.bind_some, ih hinside]

/-- A node that neither is around the address nor stands below it is left as it is. -/
theorem at?_modifyAt_beside (htarget : node.at? address = some target)
    (hbelow : ¬address <+: other) (habove : ¬other <+: address) :
    (node.modifyAt change address).at? other = node.at? other := by
  induction address generalizing node other with
  | nil => exact absurd List.nil_prefix hbelow
  | cons step address ih =>
      obtain ⟨child, hchild, hinside⟩ := Option.bind_eq_some_iff.mp htarget
      cases other with
      | nil => exact absurd List.nil_prefix habove
      | cons first other =>
          rw [at?, modifyAt, Body.child?_modifyChild hchild, at?]
          by_cases hfirst : first = step
          · subst hfirst
            rw [List.cons_prefix_cons, not_and] at hbelow habove
            rw [if_pos rfl, hchild, Option.bind_some, Option.bind_some,
              ih hinside (hbelow rfl) (habove rfl)]
          · rw [if_neg hfirst]

/-- The first node of an identifier stays the first one when it is changed and keeps the
identifier. -/
theorem locate?_modifyAt {id : String} (hlocate : node.locate? id = some address)
    (htarget : node.at? address = some target) (hchange : (change target).id.text = id) :
    (node.modifyAt change address).locate? id = some address := by
  induction address generalizing node with
  | nil =>
      cases htarget
      rw [modifyAt, locate?_eq, if_pos hchange]
  | cons step address ih =>
      obtain ⟨child, hchild, hinside⟩ := Option.bind_eq_some_iff.mp htarget
      rw [locate?_eq] at hlocate
      split at hlocate
      · simp at hlocate
      · rename_i hid
        obtain ⟨⟨_, _⟩, hstep, hfound⟩ := List.exists_of_findSome?_eq_some hlocate
        obtain ⟨_, hbelow, heq⟩ := Option.map_eq_some_iff.mp hfound
        cases heq
        have hsame := Body.child?_of_mem_steps hstep
        rw [hchild, Option.some.injEq] at hsame
        subst hsame
        obtain ⟨before, after, hsteps, hmodify⟩ := Body.exists_steps_split hchild
        rw [locateBelow?, hsteps, List.findSome?_append, List.findSome?_cons] at hlocate
        rw [modifyAt, locate?_eq, if_neg hid, locateBelow?, hmodify, List.findSome?_append,
          List.findSome?_cons]
        simp only [ih hbelow hinside]
        simpa only [hbelow] using hlocate

end Node

/-! ## Places -/

/-- The node at the first place is the one at the second place or stands around it. -/
def Place.Encloses (outer inner : Place) : Prop :=
  outer.root = inner.root ∧ outer.address <+: inner.address

namespace Schema

/-- Two schemas that are the same but for the node at a place and what is below it. -/
structure SameOutside (schema : Schema) (place : Place) (edited : Schema) : Prop where
  title : edited.title = schema.title
  description : edited.description = schema.description
  initialValues : edited.initialValues = schema.initialValues
  beside : ∀ other, ¬place.Encloses other → ¬other.Encloses place →
    edited.at? other = schema.at? other
  around : ∀ other, other.Encloses place → other ≠ place →
    ∃ held kept, schema.at? other = some held ∧ edited.at? other = some kept ∧
      kept.shell = held.shell

/-- Two schemas that are the same but for what stands in one slot of a node. -/
structure DiffersInSlot (schema : Schema) (holder : Place) (number : Nat) (before after : Slot Node)
    (edited : Schema) : Prop where
  outside : schema.SameOutside holder edited
  inside : ∃ held kept, schema.at? holder = some held ∧ edited.at? holder = some kept ∧
    kept.bare = held.bare ∧ held.body.slots[number]? = some before ∧
    kept.body.slots = held.body.slots.set number after

variable {schema : Schema} {place other : Place} {change : Node → Node} {target : Node}

theorem modifyAt_modifyAt (schema : Schema) (place : Place) (first second : Node → Node) :
    (schema.modifyAt place first).modifyAt place second =
      schema.modifyAt place (second ∘ first) := by
  have hinside : Node.modifyAt second place.address ∘ Node.modifyAt first place.address =
      Node.modifyAt (second ∘ first) place.address :=
    funext (Node.modifyAt_modifyAt first second place.address)
  rw [modifyAt, modifyAt, modifyAt, List.modify_modify_eq, hinside]

theorem modifyAt_eq_self (htarget : schema.at? place = some target)
    (hchange : change target = target) : schema.modifyAt place change = schema := by
  obtain ⟨root, before, after, hnodes, hinside, hmodify⟩ := exists_root_split htarget
  rw [modifyAt, hmodify, Node.modifyAt_eq_self hinside hchange, ← hnodes]

theorem at?_modifyAt_same_root (hroot : place.root = other.root) :
    (schema.modifyAt place change).at? other =
      (schema.nodes[other.root]?).bind fun root =>
        (root.modifyAt change place.address).at? other.address := by
  rw [at?, modifyAt, List.getElem?_modify, hroot]
  cases schema.nodes[other.root]? with
  | none => rfl
  | some root => simp

theorem at?_modifyAt_below (htarget : schema.at? place = some target) (change : Node → Node)
    (rest : Address) :
    (schema.modifyAt place change).at? ⟨place.root, place.address ++ rest⟩ =
      (change target).at? rest := by
  obtain ⟨root, hroot, hinside⟩ := Option.bind_eq_some_iff.mp htarget
  have hsame : place.root = (Place.mk place.root (place.address ++ rest)).root := rfl
  rw [at?_modifyAt_same_root hsame, ← hsame, hroot, Option.bind_some,
    Node.at?_modifyAt_append hinside]

theorem at?_modifyAt (htarget : schema.at? place = some target) (change : Node → Node) :
    (schema.modifyAt place change).at? place = some (change target) := by
  have hbelow := at?_modifyAt_below htarget change []
  rw [List.append_nil] at hbelow
  exact hbelow

/-- Only what the change makes of the node at the place matters. -/
theorem modifyAt_const (htarget : schema.at? place = some target) (change : Node → Node) :
    (schema.modifyAt place fun _ => change target) = schema.modifyAt place change := by
  calc
    (schema.modifyAt place fun _ => change target) =
        (schema.modifyAt place change).modifyAt place fun _ => change target :=
      (schema.modifyAt_modifyAt place change fun _ => change target).symm
    _ = schema.modifyAt place change := modifyAt_eq_self (at?_modifyAt htarget change) rfl

theorem sameOutside_modifyAt (htarget : schema.at? place = some target) :
    schema.SameOutside place (schema.modifyAt place change) where
  title := rfl
  description := rfl
  initialValues := rfl
  beside := by
    intro other hbelow habove
    obtain ⟨root, hroot, hinside⟩ := Option.bind_eq_some_iff.mp htarget
    by_cases hsame : place.root = other.root
    · rw [at?_modifyAt_same_root hsame, at?, ← hsame, hroot, Option.bind_some, Option.bind_some]
      exact Node.at?_modifyAt_beside hinside (fun hprefix => hbelow ⟨hsame, hprefix⟩)
        fun hprefix => habove ⟨hsame.symm, hprefix⟩
    · have hroots := List.getElem?_modify_ne (Node.modifyAt change place.address) schema.nodes hsame
      exact congrArg (Option.bind · (Node.at? other.address)) hroots
  around := by
    intro other hencloses hother
    obtain ⟨hsame, rest, hrest⟩ := hencloses
    obtain ⟨root, hroot, hinside⟩ := Option.bind_eq_some_iff.mp htarget
    rw [← hrest] at hinside
    obtain ⟨held, hheld, -⟩ := Option.bind_eq_some_iff.mp
      ((Node.at?_append other.address rest root).symm.trans hinside)
    refine ⟨held, held.modifyAt change rest, ?_, ?_, ?_⟩
    · rw [at?, hsame, hroot, Option.bind_some, hheld]
    · rw [at?_modifyAt_same_root hsame.symm, hsame, hroot, Option.bind_some, ← hrest,
        Node.at?_modifyAt_above hinside, hheld, Option.map_some]
    · cases rest with
      | nil =>
          rw [List.append_nil] at hrest
          cases place
          cases other
          exact absurd (congrArg₂ Place.mk hsame hrest) hother
      | cons step rest => exact held.shell_modifyAt_cons change step rest

/-- The first node of an identifier stays the first one when it is changed and keeps the
identifier. -/
theorem locate?_modifyAt {id : String} (hlocate : schema.locate? id = some place)
    (htarget : schema.at? place = some target) (hchange : (change target).id.text = id) :
    (schema.modifyAt place change).locate? id = some place := by
  obtain ⟨⟨root, number⟩, hmem, hfound⟩ := List.exists_of_findSome?_eq_some hlocate
  obtain ⟨address, hinside, rfl⟩ := Option.map_eq_some_iff.mp hfound
  rw [List.mem_zipIdx_iff_getElem?] at hmem
  rw [at?, hmem, Option.bind_some] at htarget
  obtain ⟨before, after, hnodes, hmodify⟩ := exists_zipIdx_split hmem
  rw [locate?, hnodes, List.findSome?_append, List.findSome?_cons] at hlocate
  rw [locate?, modifyAt, hmodify, List.findSome?_append, List.findSome?_cons]
  simp only [Node.locate?_modifyAt hinside htarget hchange]
  simpa only [hinside] using hlocate

/-! ## One slot of a node -/

section Slot

variable {holder : Place} {held : Node} {number : Nat} {slot : Slot Node}

theorem differsInSlot_modifyAt (hheld : schema.at? holder = some held)
    (hslot : held.body.slots[number]? = some slot) (edit : SlotEdit Node) :
    schema.DiffersInSlot holder number slot (slot.edit edit)
      (schema.modifyAt holder (Node.editSlot number edit)) where
  outside := sameOutside_modifyAt hheld
  inside := by
    refine ⟨held, held.editSlot number edit, hheld, at?_modifyAt hheld _, held.bare_editSlot .., hslot,
      ?_⟩
    rw [Node.editSlot, Body.slots_editSlot, List.modify_eq_set_getElem?, hslot]
    rfl

/-- What stands in a slot is one stretch of the walk, before and after an edit of the slot. -/
theorem exists_bareWalk_slot_split (hheld : schema.at? holder = some held)
    (hslot : held.body.slots[number]? = some slot) :
    ∃ before after,
      schema.bareWalk = before ++ slot.content.toList.flatMap Node.bareWalk ++ after ∧
      ∀ edit, (schema.modifyAt holder (Node.editSlot number edit)).bareWalk =
        before ++ (slot.content.edit edit).toList.flatMap Node.bareWalk ++ after := by
  obtain ⟨before, after, hwalk, hchange⟩ := exists_bareWalk_split hheld
  obtain ⟨first, last, hchildren, hedit⟩ := Body.exists_children_split hslot
  refine ⟨before ++ (held.bare :: first.flatMap Node.bareWalk),
    last.flatMap Node.bareWalk ++ after, ?_, fun edit => ?_⟩
  · rw [hwalk, Node.bareWalk_eq, hchildren]
    simp only [List.flatMap_append, List.append_assoc, List.cons_append]
  · rw [hchange, Node.bareWalk_eq, Node.bare_editSlot, Node.editSlot, hedit]
    simp only [List.flatMap_append, List.append_assoc, List.cons_append]

end Slot

end Schema

end Forms
