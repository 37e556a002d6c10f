import Forms.Proofs.Tree.Frame

/-!
# Where nodes stand

The walk can be listed with the address of each node.  Every address stands there once, so an
identifier that does not repeat is met at one place only.  A node that is no root stands in a slot
of the node above it.
-/

namespace Forms

variable {Child : Type}

theorem Body.mem_steps_iff {body : Body Child} {step : Step} {child : Child} :
    (step, child) ∈ body.steps ↔ body.child? step = some child := by
  refine ⟨child?_of_mem_steps, fun hchild => ?_⟩
  obtain ⟨before, after, hsteps, -⟩ := exists_steps_split hchild
  exact hsteps ▸ List.mem_append_right _ List.mem_cons_self

namespace Node

/-- The nodes of the walk, each with its address. -/
def positions (node : Node) : List (Address × Node) :=
  node.fold fun node below =>
    ([], node) :: below.steps.flatMap fun (step, positions) =>
      positions.map fun (address, target) => (step :: address, target)

theorem positions_eq (node : Node) :
    node.positions = ([], node) :: node.body.steps.flatMap fun (step, child) =>
      child.positions.map fun (address, target) => (step :: address, target) := by
  rw [positions, fold_eq, Body.steps_map, List.flatMap_map]
  rfl

theorem positions_map_snd (node : Node) : node.positions.map Prod.snd = node.walk := by
  induction node using induct with
  | node node ih =>
      rw [positions_eq, walk_eq, List.map_cons, List.map_flatMap, ← Body.steps_map_snd,
        List.flatMap_map]
      apply congrArg (node :: ·)
      apply List.flatMap_congr
      rintro ⟨step, child⟩ hstep
      rw [List.map_map]
      exact ih child (Body.mem_children_of_child? (Body.child?_of_mem_steps hstep))

theorem mem_positions_iff {address : Address} {node target : Node} :
    (address, target) ∈ node.positions ↔ node.at? address = some target := by
  induction address generalizing node with
  | nil =>
      rw [positions_eq, List.mem_cons]
      simp [at?, eq_comm]
  | cons step address ih =>
      rw [positions_eq, at?, Option.bind_eq_some_iff]
      constructor
      · intro hmem
        have hbelow := (List.mem_cons.mp hmem).resolve_left (by simp)
        obtain ⟨⟨first, child⟩, hstep, hchild⟩ := List.mem_flatMap.mp hbelow
        obtain ⟨⟨rest, found⟩, hfound, heq⟩ := List.mem_map.mp hchild
        cases heq
        exact ⟨child, Body.mem_steps_iff.mp hstep, ih.mp hfound⟩
      · rintro ⟨child, hchild, hinside⟩
        apply List.mem_cons_of_mem
        refine List.mem_flatMap.mpr ⟨(step, child), Body.mem_steps_iff.mpr hchild, ?_⟩
        exact List.mem_map.mpr ⟨(address, target), ih.mpr hinside, rfl⟩

end Node

namespace Schema

variable {schema : Schema}

/-- The nodes of the walk, each with its place. -/
def positions (schema : Schema) : List (Place × Node) :=
  schema.nodes.zipIdx.flatMap fun (node, root) =>
    node.positions.map fun (address, target) => (⟨root, address⟩, target)

theorem positions_map_snd (schema : Schema) : schema.positions.map Prod.snd = schema.walk := by
  have hroots : schema.nodes = schema.nodes.zipIdx.map Prod.fst := (List.zipIdx_map_fst 0 _).symm
  rw [walk, hroots, List.flatMap_map, positions, List.map_flatMap]
  apply List.flatMap_congr
  rintro ⟨node, root⟩ -
  rw [List.map_map]
  exact node.positions_map_snd

theorem mem_positions_iff {place : Place} {target : Node} :
    (place, target) ∈ schema.positions ↔ schema.at? place = some target := by
  rw [positions, at?, Option.bind_eq_some_iff, List.mem_flatMap]
  constructor
  · rintro ⟨⟨node, root⟩, hnode, hmem⟩
    obtain ⟨⟨address, found⟩, hfound, heq⟩ := List.mem_map.mp hmem
    cases heq
    exact ⟨node, List.mem_zipIdx_iff_getElem?.mp hnode, Node.mem_positions_iff.mp hfound⟩
  · rintro ⟨node, hnode, hinside⟩
    refine ⟨(node, place.root), List.mem_zipIdx_iff_getElem?.mpr hnode, ?_⟩
    exact List.mem_map.mpr ⟨(place.address, target), Node.mem_positions_iff.mpr hinside, rfl⟩

theorem mem_walk_iff {target : Node} :
    target ∈ schema.walk ↔ ∃ place, schema.at? place = some target := by
  refine ⟨fun hmem => ?_, fun ⟨place, hplace⟩ => mem_walk_of_at? hplace⟩
  rw [← positions_map_snd] at hmem
  obtain ⟨⟨place, _⟩, hplace, rfl⟩ := List.mem_map.mp hmem
  exact ⟨place, mem_positions_iff.mp hplace⟩

/-- An identifier that occurs once is met at one place. -/
theorem eq_of_at? {first second : Place} {found met : Node} {id : String}
    (hfound : schema.at? first = some found) (hmet : schema.at? second = some met)
    (hids : found.id.text = id ∧ met.id.text = id) (hcount : schema.ids.count id ≤ 1) :
    first = second := by
  have hlength : (schema.positions.filter fun entry => entry.2.id.text == id).length ≤ 1 := by
    calc
      (schema.positions.filter fun entry => entry.2.id.text == id).length =
          schema.ids.count id := by
        rw [← List.countP_eq_length_filter, ids, ← positions_map_snd, List.count, List.countP_map,
          List.countP_map]
        rfl
      _ ≤ 1 := hcount
  have hfirst : (first, found) ∈ schema.positions.filter fun entry => entry.2.id.text == id := by
    simpa using ⟨mem_positions_iff.mpr hfound, hids.1⟩
  have hsecond : (second, met) ∈ schema.positions.filter fun entry => entry.2.id.text == id := by
    simpa using ⟨mem_positions_iff.mpr hmet, hids.2⟩
  obtain ⟨entry, hentry⟩ := List.length_eq_one_iff.mp
    (le_antisymm hlength (List.length_pos_of_mem hfirst))
  rw [hentry, List.mem_singleton] at hfirst hsecond
  exact congrArg Prod.fst (hfirst.trans hsecond.symm)

end Schema

/-! ## The slot a node stands in -/

/-- Whether the slot must stay filled. -/
def SlotContent.IsRequired : SlotContent Child → Prop
  | .required _ => True
  | _ => False

namespace Node

/-- The slot in which the node at an address stands. -/
def slotAt? : Address → Node → Option (Slot Node)
  | [], _ => none
  | [step], node => node.body.slots[step.slot]?
  | step :: address, node => (node.body.child? step).bind (slotAt? address)

theorem slotAt?_append_singleton (above : Address) (step : Step) (node : Node) :
    node.slotAt? (above ++ [step]) =
      (node.at? above).bind fun holder => holder.body.slots[step.slot]? := by
  induction above generalizing node with
  | nil => rfl
  | cons first above ih =>
      have hnext : (first :: above ++ [step] : Address) = first :: (above ++ [step]) := rfl
      rw [hnext, slotAt?, at?, Option.bind_assoc]
      · exact congrArg _ (funext ih)
      · simp

theorem slotAt?_cons {step : Step} {address : Address} {node child : Node} {slot : Slot Node}
    (hchild : node.body.child? step = some child) (hslot : child.slotAt? address = some slot) :
    node.slotAt? (step :: address) = some slot := by
  cases address with
  | nil => cases hslot
  | cons next address => rw [slotAt?, hchild, Option.bind_some, hslot]; simp

end Node

namespace Schema

/-- The slot in which the node at a place stands; roots stand in none. -/
def slotAt? (schema : Schema) (place : Place) : Option (Slot Node) :=
  (schema.nodes[place.root]?).bind (Node.slotAt? place.address)

/-- How a node stands at a place: as a root, or as what a slot of the node above it holds. -/
inductive Stands (schema : Schema) (target : Node) : Place → Option (Slot Node) → Prop where
  | root {position : Nat} (hroot : schema.nodes[position]? = some target) :
      Stands schema target ⟨position, []⟩ none
  | held {root : Nat} {above : Address} {step : Step} {holder : Node} {slot : Slot Node}
      (hholder : schema.at? ⟨root, above⟩ = some holder)
      (hslot : holder.body.slots[step.slot]? = some slot)
      (hchild : slot.content.toList[step.position]? = some target) :
      Stands schema target ⟨root, above ++ [step]⟩ (some slot)

variable {schema : Schema} {root : Nat} {above : Address} {step : Step} {holder target : Node}

theorem at?_below (hholder : schema.at? ⟨root, above⟩ = some holder) (rest : Address) :
    schema.at? ⟨root, above ++ rest⟩ = holder.at? rest := by
  obtain ⟨node, hnode, hinside⟩ := Option.bind_eq_some_iff.mp hholder
  simp only at hnode hinside
  rw [at?, hnode, Option.bind_some, Node.at?_append, hinside, Option.bind_some]

theorem slotAt?_below (hholder : schema.at? ⟨root, above⟩ = some holder) (step : Step) :
    schema.slotAt? ⟨root, above ++ [step]⟩ = holder.body.slots[step.slot]? := by
  obtain ⟨node, hnode, hinside⟩ := Option.bind_eq_some_iff.mp hholder
  simp only at hnode hinside
  rw [slotAt?, hnode, Option.bind_some, Node.slotAt?_append_singleton, hinside, Option.bind_some]

theorem stands {place : Place} (htarget : schema.at? place = some target) :
    schema.Stands target place (schema.slotAt? place) := by
  obtain ⟨root, address⟩ := place
  obtain ⟨node, hnode, hinside⟩ := Option.bind_eq_some_iff.mp htarget
  rcases List.eq_nil_or_concat address with rfl | ⟨above, step, rfl⟩
  · cases hinside
    rw [slotAt?, hnode]
    exact .root hnode
  · rw [List.concat_eq_append] at hinside ⊢
    obtain ⟨holder, hholder, hstep⟩ := Option.bind_eq_some_iff.mp
      ((Node.at?_append above [step] node).symm.trans hinside)
    obtain ⟨child, hchild, heq⟩ := Option.bind_eq_some_iff.mp hstep
    cases heq
    obtain ⟨slot, hslot, hheld⟩ := Body.child?_eq_some_iff.mp hchild
    have hat : schema.at? ⟨root, above⟩ = some holder := by
      rw [at?, hnode, Option.bind_some, hholder]
    rw [slotAt?_below hat, hslot]
    exact .held hat hslot hheld

end Schema

end Forms
