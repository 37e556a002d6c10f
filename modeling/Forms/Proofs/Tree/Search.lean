import Forms.Proofs.Tree.Splice
import Forms.Schema.Address

/-!
# Searching trees

The walk of a tree is searched in three places: by reading it from its start, by the address of its
first match, and slot by slot.  All of them meet the nodes in the same order, so the address of the
first match leads to the node that reading the walk gives.
-/

namespace Forms

variable {Child Result : Type}

/-! ## Every child in its place -/

namespace SlotContent

def map (f : Child → Result) : SlotContent Child → SlotContent Result
  | .sequence nodes => .sequence (nodes.map f)
  | .optional node => .optional (node.map f)
  | .required node => .required (f node)

@[simp]
theorem toList_map (f : Child → Result) (content : SlotContent Child) :
    (content.map f).toList = content.toList.map f := by
  cases content with
  | sequence nodes => rfl
  | optional node => cases node <;> rfl
  | required node => rfl

end SlotContent

def Slot.map (f : Child → Result) (slot : Slot Child) : Slot Result :=
  ⟨slot.key, slot.content.map f⟩

namespace Body

theorem slots_map (f : Child → Result) (body : Body Child) :
    (body.map f).slots = body.slots.map (Slot.map f) := by
  cases body with
  | container layout =>
      cases layout <;>
        simp [map, slots, Layout.map, Layout.slots, Section.map, Section.slot, Slot.map,
          SlotContent.map]
  | field | display | unknown => rfl

theorem steps_map (f : Child → Result) (body : Body Child) :
    (body.map f).steps = body.steps.map fun (step, child) => (step, f child) := by
  simp only [steps, slots_map, List.zipIdx_map, List.flatMap_map, List.map_flatMap, List.map_map]
  apply List.flatMap_congr
  rintro ⟨slot, number⟩ -
  simp only [Prod.map_fst, Prod.map_snd, id_eq, Slot.map, SlotContent.toList_map, List.zipIdx_map,
    List.map_map]
  rfl

theorem steps_map_snd (body : Body Child) : body.steps.map Prod.snd = body.children := by
  rw [children_eq_flatMap_slots, steps, List.map_flatMap]
  have hslots : ∀ start, (body.slots.zipIdx start).flatMap (fun place =>
      (place.1.content.toList.zipIdx.map fun child =>
        ((⟨place.2, child.2⟩ : Step), child.1)).map Prod.snd) =
        body.slots.flatMap fun slot => slot.content.toList := by
    induction body.slots with
    | nil => intro start; rfl
    | cons slot slots ih =>
        intro start
        rw [List.zipIdx_cons, List.flatMap_cons, List.flatMap_cons, ih]
        simp only [List.map_map]
        exact congrArg (· ++ _) (List.zipIdx_map_fst 0 _)
  exact hslots 0

theorem child?_of_mem_steps {body : Body Child} {step : Step} {child : Child}
    (hstep : (step, child) ∈ body.steps) : body.child? step = some child := by
  obtain ⟨⟨slot, number⟩, hslot, hchild⟩ := List.mem_flatMap.mp hstep
  obtain ⟨⟨held, position⟩, hheld, heq⟩ := List.mem_map.mp hchild
  cases heq
  rw [List.mem_zipIdx_iff_getElem?] at hslot hheld
  simp only [child?, hslot, hheld]

end Body

namespace Node

/-! ## Induction over a tree -/

/-- How many nodes stand on the longest way down. -/
def height (node : Node) : Nat := node.fold fun _ heights => heights.children.foldr max 0 + 1

theorem height_lt_of_mem {node child : Node} (hchild : child ∈ node.body.children) :
    child.height < node.height := by
  have hle : ∀ nodes : List Node, child ∈ nodes →
      child.height ≤ (nodes.map height).foldr max 0 := by
    intro nodes hmem
    induction nodes with
    | nil => simp at hmem
    | cons node nodes ih =>
        rw [List.map_cons, List.foldr_cons]
        rcases List.mem_cons.mp hmem with rfl | hlater
        · exact le_max_left _ _
        · exact (ih hlater).trans (le_max_right _ _)
  have hheight : node.height = (node.body.children.map height).foldr max 0 + 1 := by
    rw [height, fold_eq, Body.children_map]
    rfl
  rw [hheight]
  exact Nat.lt_succ_of_le (hle _ hchild)

/-- Induction over all nodes inside a node: what holds of the children holds of the node. -/
@[elab_as_elim]
theorem induct {motive : Node → Prop}
    (node : ∀ node : Node, (∀ child ∈ node.body.children, motive child) → motive node)
    (tree : Node) : motive tree := by
  generalize hheight : tree.height = height
  induction height using Nat.strong_induction_on generalizing tree with
  | _ height ih =>
      refine node tree fun child hchild => ih child.height ?_ child rfl
      exact hheight ▸ height_lt_of_mem hchild

/-! ## The first match -/

theorem find?_walk (accept : Node → Bool) (node : Node) :
    node.walk.find? accept =
      if accept node then some node
      else node.body.children.findSome? fun child => child.walk.find? accept := by
  rw [walk_eq, List.find?_cons, List.find?_flatMap]
  cases accept node <;> rfl

/-- The address of the first match below a node, whatever the node itself is. -/
def locateBelow? (id : String) (node : Node) : Option Address :=
  node.body.steps.findSome? fun (step, child) => (child.locate? id).map (step :: ·)

theorem locate?_eq (id : String) (node : Node) :
    node.locate? id = if node.id.text = id then some [] else node.locateBelow? id := by
  rw [locate?, fold_eq, Body.steps_map, List.findSome?_map]
  rfl

/-- An address that the search gives leads to a node with the identifier. -/
theorem exists_at?_of_locate? {id : String} {address : Address} {node : Node}
    (hlocate : node.locate? id = some address) :
    ∃ target, node.at? address = some target ∧ target.id.text = id := by
  induction address generalizing node with
  | nil =>
      rw [locate?_eq] at hlocate
      split at hlocate
      · rename_i hid
        exact ⟨node, rfl, hid⟩
      · obtain ⟨⟨step, child⟩, -, hchild⟩ := List.exists_of_findSome?_eq_some hlocate
        simp at hchild
  | cons step address ih =>
      rw [locate?_eq] at hlocate
      split at hlocate
      · simp at hlocate
      · obtain ⟨⟨first, child⟩, hstep, hchild⟩ := List.exists_of_findSome?_eq_some hlocate
        obtain ⟨rest, hrest, heq⟩ := Option.map_eq_some_iff.mp hchild
        cases heq
        obtain ⟨target, htarget, hid⟩ := ih hrest
        exact ⟨target, by rw [at?, Body.child?_of_mem_steps hstep, Option.bind_some, htarget], hid⟩

end Node

/-- A look-up behind a search is the search for what is looked up, when nothing that is found is
lost. -/
theorem bind_findSome? {α β γ : Type} {items : List α} {search : α → Option β}
    {look : β → Option γ} {answer : α → Option γ}
    (hlook : ∀ item ∈ items, ∀ found, search item = some found → (look found).isSome)
    (hanswer : ∀ item ∈ items, (search item).bind look = answer item) :
    (items.findSome? search).bind look = items.findSome? answer := by
  induction items with
  | nil => rfl
  | cons item items ih =>
      rw [List.forall_mem_cons] at hlook hanswer
      rw [List.findSome?_cons, List.findSome?_cons, ← hanswer.1]
      cases hitem : search item with
      | none => exact ih hlook.2 hanswer.2
      | some found =>
          obtain ⟨held, hheld⟩ := Option.isSome_iff_exists.mp (hlook.1 found hitem)
          simp only [Option.bind_some, hheld]

namespace Node

/-- The address of the first match leads to the first match of the walk. -/
theorem at?_locate? (id : String) (node : Node) :
    (node.locate? id).bind (fun address => node.at? address) =
      node.walk.find? fun other => other.id.text == id := by
  induction node using induct with
  | node node ih =>
      rw [locate?_eq, find?_walk]
      by_cases hid : node.id.text = id
      · simp [hid, at?]
      · have hbelow : ∀ step child, (step, child) ∈ node.body.steps →
            ((child.locate? id).map (step :: ·)).bind (fun address => node.at? address) =
              child.walk.find? fun other => other.id.text == id := by
          intro step child hstep
          have hchild := Body.child?_of_mem_steps hstep
          rw [← ih child (Body.mem_children_of_child? hchild), Option.bind_map]
          apply congrArg
          funext address
          simp only [Function.comp_apply, at?, hchild, Option.bind_some]
        rw [if_neg hid, if_neg (by simpa using hid), ← Body.steps_map_snd, List.findSome?_map]
        apply bind_findSome?
        · rintro ⟨step, child⟩ hstep address haddress
          obtain ⟨rest, hrest, rfl⟩ := Option.map_eq_some_iff.mp haddress
          obtain ⟨target, htarget, -⟩ := exists_at?_of_locate? hrest
          rw [at?, Body.child?_of_mem_steps hstep, Option.bind_some, htarget]
          rfl
        · rintro ⟨step, child⟩ hstep
          exact hbelow step child hstep

/-- Whatever an address leads to stands in the walk. -/
theorem mem_walk_of_at? {address : Address} {node target : Node}
    (htarget : node.at? address = some target) : target ∈ node.walk := by
  induction address generalizing node with
  | nil =>
      cases htarget
      rw [walk_eq]
      exact List.mem_cons_self
  | cons step address ih =>
      obtain ⟨child, hchild, hinside⟩ := Option.bind_eq_some_iff.mp htarget
      rw [walk_eq]
      exact List.mem_cons_of_mem _
        (List.mem_flatMap.mpr ⟨child, Body.mem_children_of_child? hchild, ih hinside⟩)

end Node

namespace Schema

theorem mem_walk_of_at? {schema : Schema} {place : Place} {target : Node}
    (htarget : schema.at? place = some target) : target ∈ schema.walk := by
  obtain ⟨root, hroot, hinside⟩ := Option.bind_eq_some_iff.mp htarget
  exact List.mem_flatMap.mpr
    ⟨root, List.mem_of_getElem? hroot, Node.mem_walk_of_at? hinside⟩

theorem mem_ids_of_at? {schema : Schema} {place : Place} {target : Node}
    (htarget : schema.at? place = some target) : target.id.text ∈ schema.ids :=
  List.mem_map_of_mem (mem_walk_of_at? htarget)

/-- The place of the first match holds the node that is found. -/
theorem at?_locate? (schema : Schema) (id : String) :
    (schema.locate? id).bind schema.at? = schema.find? id := by
  have hroot : ∀ node root, (node, root) ∈ schema.nodes.zipIdx →
      ((node.locate? id).map (Place.mk root)).bind schema.at? =
        node.walk.find? fun other => other.id.text == id := by
    intro node root hnode
    rw [List.mem_zipIdx_iff_getElem?] at hnode
    rw [← Node.at?_locate?, Option.bind_map]
    apply congrArg
    funext address
    simp only [Function.comp_apply, at?, hnode, Option.bind_some]
  have hwalk : schema.find? id =
      (schema.nodes.zipIdx.map Prod.fst).findSome? fun node =>
        node.walk.find? fun other => other.id.text == id := by
    rw [List.zipIdx_map_fst, find?, walk, List.find?_flatMap]
  rw [hwalk, List.findSome?_map]
  apply bind_findSome?
  · rintro ⟨node, root⟩ hnode place hplace
    obtain ⟨address, haddress, rfl⟩ := Option.map_eq_some_iff.mp hplace
    obtain ⟨target, htarget, -⟩ := Node.exists_at?_of_locate? haddress
    rw [List.mem_zipIdx_iff_getElem?] at hnode
    rw [at?, hnode, Option.bind_some, htarget]
    rfl
  · rintro ⟨node, root⟩ hnode
    exact hroot node root hnode

/-- The place of the first match holds a node with the identifier. -/
theorem exists_find?_of_locate? {schema : Schema} {id : String} {place : Place}
    (hlocate : schema.locate? id = some place) :
    ∃ node, schema.at? place = some node ∧ schema.find? id = some node ∧ node.id.text = id := by
  obtain ⟨⟨root, number⟩, hroot, hfound⟩ := List.exists_of_findSome?_eq_some hlocate
  obtain ⟨address, hinside, rfl⟩ := Option.map_eq_some_iff.mp hfound
  obtain ⟨node, hnode, hid⟩ := Node.exists_at?_of_locate? hinside
  have hat : schema.at? ⟨number, address⟩ = some node := by
    rw [at?, List.mem_zipIdx_iff_getElem?.mp hroot, Option.bind_some, hnode]
  refine ⟨node, hat, ?_, hid⟩
  rw [← at?_locate?, hlocate, Option.bind_some, hat]

theorem locate?_eq_none_iff {schema : Schema} {id : String} :
    schema.locate? id = none ↔ id ∉ schema.ids := by
  constructor
  · intro hnone hmem
    have hfind := schema.at?_locate? id
    rw [hnone, Option.bind_none] at hfind
    obtain ⟨node, hnode, hid⟩ := List.mem_map.mp hmem
    exact absurd hid (by simpa using List.find?_eq_none.mp hfind.symm node hnode)
  · intro hnew
    cases hlocate : schema.locate? id with
    | none => rfl
    | some place =>
        obtain ⟨node, hnode, -, rfl⟩ := exists_find?_of_locate? hlocate
        exact absurd (mem_ids_of_at? hnode) hnew

/-- The first node of an identifier that occurs has a place. -/
theorem exists_place_of_mem_ids {schema : Schema} {id : String} (hthere : id ∈ schema.ids) :
    ∃ place node, schema.locate? id = some place ∧ schema.at? place = some node ∧
      schema.find? id = some node ∧ node.id.text = id := by
  obtain ⟨place, hlocate⟩ := Option.ne_none_iff_exists'.mp (mt locate?_eq_none_iff.mp (· hthere))
  obtain ⟨node, hnode⟩ := exists_find?_of_locate? hlocate
  exact ⟨place, node, hlocate, hnode⟩

end Schema

end Forms
