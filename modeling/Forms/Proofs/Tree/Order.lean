import Forms.Proofs.Tree.Positions
import Mathlib.Data.List.Nodup
import Mathlib.Data.List.Sigma

/-!
# The order of the walk

The walk lists every place of a tree once.  The search for an address takes the places in the same
order, so it ends at the first node of the identifier.  What stands inside a node is one stretch of
the list, and nothing outside the stretch stands inside the node.
-/

namespace Forms

variable {Child Item Inner Entry Key : Type}

/-- Lists that are put together repeat nothing when none of them does and each entry shows by a key
which list it comes from. -/
theorem nodup_flatMap_map {items : List Item} {inner : Item → List Inner} (key : Item → Key)
    {mark : Key → Inner → Entry} (hmark : Function.Injective2 mark)
    (hkeys : (items.map key).Nodup) (hinner : ∀ item ∈ items, (inner item).Nodup) :
    (items.flatMap fun item => (inner item).map (mark (key item))).Nodup := by
  rw [List.nodup_flatMap]
  refine ⟨fun item hitem => (hinner item hitem).map (hmark.right _), ?_⟩
  apply (List.pairwise_map.mp hkeys).imp
  intro first second hne entry hentry hagain
  obtain ⟨_, -, rfl⟩ := List.mem_map.mp hentry
  obtain ⟨_, -, heq⟩ := List.mem_map.mp hagain
  exact hne (hmark heq).1.symm

/-- A list without repetitions loses one stretch when the entries of that stretch are dropped. -/
theorem filter_outside_stretch {before inside after : List Entry} {Inside : Entry → Prop}
    [DecidablePred Inside] (hnodup : (before ++ inside ++ after).Nodup)
    (hinside : ∀ entry ∈ before ++ inside ++ after, Inside entry ↔ entry ∈ inside) :
    (before ++ inside ++ after).filter (fun entry => ¬Inside entry) = before ++ after := by
  obtain ⟨hfront, -, hback⟩ := List.nodup_append.mp hnodup
  have hbefore : ∀ entry ∈ before, ¬Inside entry := by
    intro entry hentry
    rw [hinside entry (List.mem_append_left _ (List.mem_append_left _ hentry))]
    exact fun hmem => (List.nodup_append.mp hfront).2.2 entry hentry entry hmem rfl
  have hafter : ∀ entry ∈ after, ¬Inside entry := by
    intro entry hentry
    rw [hinside entry (List.mem_append_right _ hentry)]
    exact fun hmem => hback entry (List.mem_append_right _ hmem) entry hentry rfl
  have hnone : ∀ entry ∈ inside, Inside entry := fun entry hentry =>
    (hinside entry (List.mem_append_left _ (List.mem_append_right _ hentry))).mpr hentry
  rw [List.filter_append, List.filter_append, List.filter_eq_self.mpr (by simpa using hbefore),
    List.filter_eq_nil_iff.mpr (by simpa using hnone),
    List.filter_eq_self.mpr (by simpa using hafter), List.append_nil]

/-- No step leads to two children. -/
theorem Body.nodup_steps (body : Body Child) : (body.steps.map Prod.fst).Nodup := by
  have hsteps : body.steps.map Prod.fst = body.slots.zipIdx.flatMap fun place =>
      (place.1.content.toList.zipIdx.map Prod.snd).map (Step.mk place.2) := by
    simp only [steps, List.map_flatMap, List.map_map]
    rfl
  rw [hsteps]
  apply nodup_flatMap_map Prod.snd (fun _ _ _ _ => Step.mk.inj)
  · exact List.nodup_zipIdx_map_snd body.slots
  · exact fun place _ => List.nodup_zipIdx_map_snd place.1.content.toList

namespace Node

/-- No address leads to two nodes of the walk. -/
theorem nodup_positions (node : Node) : (node.positions.map Prod.fst).Nodup := by
  induction node using induct with
  | node node ih =>
      have hpositions : node.positions.map Prod.fst = [] :: node.body.steps.flatMap fun entry =>
          (entry.2.positions.map Prod.fst).map (List.cons entry.1) := by
        simp only [positions_eq node, List.map_cons, List.map_flatMap, List.map_map]
        rfl
      rw [hpositions, List.nodup_cons]
      constructor
      · simp
      · apply nodup_flatMap_map Prod.fst (fun _ _ _ _ => List.cons.inj) node.body.nodup_steps
        rintro ⟨step, child⟩ hstep
        exact ih child (Body.mem_children_of_child? (Body.child?_of_mem_steps hstep))

/-- The address that the search gives is the first one of the walk with the identifier. -/
theorem locate?_eq_find? (id : String) (node : Node) :
    node.locate? id =
      (node.positions.find? fun entry => entry.2.id.text == id).map Prod.fst := by
  induction node using induct with
  | node node ih =>
      rw [locate?_eq, positions_eq, List.find?_cons]
      by_cases hid : node.id.text = id
      · simp [hid]
      · have hother : (node.id.text == id) = false := beq_false_of_ne hid
        -- behind the search for an entry its address is looked up, child by child
        rw [if_neg hid, hother, locateBelow?, List.find?_flatMap, Option.map_eq_bind]
        symm
        apply bind_findSome? (fun _ _ _ _ => rfl)
        rintro ⟨step, child⟩ hstep
        have hchild := Body.mem_children_of_child? (Body.child?_of_mem_steps hstep)
        simp only [ih child hchild, ← Option.map_eq_bind, List.find?_map, Option.map_map]
        rfl

/-- What stands inside a descendant is one stretch of the walk. -/
theorem exists_positions_split {address : Address} {node target : Node}
    (htarget : node.at? address = some target) :
    ∃ before after, node.positions =
      before ++ target.positions.map (fun entry => (address ++ entry.1, entry.2)) ++ after := by
  induction address generalizing node with
  | nil =>
      cases htarget
      exact ⟨[], [], by simp⟩
  | cons step address ih =>
      obtain ⟨child, hchild, hinside⟩ := Option.bind_eq_some_iff.mp htarget
      obtain ⟨before, after, hpositions⟩ := ih hinside
      obtain ⟨first, last, hsteps, -⟩ := Body.exists_steps_split hchild
      rw [positions_eq, hsteps, List.flatMap_append, List.flatMap_cons]
      simp only [hpositions, List.map_append, List.map_map, ← List.append_assoc, ← List.cons_append]
      exact ⟨_, _, List.append_assoc ..⟩

end Node

/-! ## Schemas -/

/-- Where an address from the node at the place leads. -/
def Place.below (place : Place) (rest : Address) : Place := ⟨place.root, place.address ++ rest⟩

theorem Place.encloses_iff {outer inner : Place} :
    outer.Encloses inner ↔ ∃ rest, inner = outer.below rest := by
  constructor
  · rintro ⟨hroot, rest, haddress⟩
    refine ⟨rest, ?_⟩
    rw [below, hroot, haddress]
  · rintro ⟨rest, rfl⟩
    exact ⟨rfl, List.prefix_append _ _⟩

instance (outer inner : Place) : Decidable (outer.Encloses inner) :=
  inferInstanceAs (Decidable (outer.root = inner.root ∧ outer.address <+: inner.address))

namespace Schema

variable {schema : Schema} {id : String} {place : Place} {target : Node}

/-- No place stands twice in the walk. -/
theorem nodup_positions (schema : Schema) : (schema.positions.map Prod.fst).Nodup := by
  have hpositions : schema.positions.map Prod.fst = schema.nodes.zipIdx.flatMap fun entry =>
      (entry.1.positions.map Prod.fst).map (Place.mk entry.2) := by
    simp only [positions, List.map_flatMap, List.map_map]
    rfl
  rw [hpositions]
  apply nodup_flatMap_map Prod.snd (fun _ _ _ _ => Place.mk.inj)
  · exact List.nodup_zipIdx_map_snd schema.nodes
  · exact fun entry _ => entry.1.nodup_positions

/-- The first node of the walk that has the identifier, with its place. -/
def first? (schema : Schema) (id : String) : Option (Place × Node) :=
  schema.positions.find? fun entry => entry.2.id.text == id

theorem locate?_eq_first? (schema : Schema) (id : String) :
    schema.locate? id = (schema.first? id).map Prod.fst := by
  rw [locate?, first?, positions, List.find?_flatMap, Option.map_eq_bind]
  symm
  apply bind_findSome? (fun _ _ _ _ => rfl)
  rintro ⟨node, root⟩ -
  simp only [Node.locate?_eq_find?, ← Option.map_eq_bind, List.find?_map, Option.map_map]
  rfl

theorem find?_eq_first? (schema : Schema) (id : String) :
    schema.find? id = (schema.first? id).map Prod.snd := by
  rw [find?, first?, ← positions_map_snd, List.find?_map]
  rfl

theorem at?_of_first? (hfirst : schema.first? id = some (place, target)) :
    schema.at? place = some target :=
  mem_positions_iff.mp (List.mem_of_find?_eq_some hfirst)

/-- What stands inside the node at a place is one stretch of the walk. -/
theorem exists_positions_split (htarget : schema.at? place = some target) :
    ∃ before after, schema.positions =
      before ++ target.positions.map (fun entry => (place.below entry.1, entry.2)) ++ after := by
  obtain ⟨root, hroot, hinside⟩ := Option.bind_eq_some_iff.mp htarget
  obtain ⟨before, after, hpositions⟩ := Node.exists_positions_split hinside
  obtain ⟨first, last, hroots, -⟩ := exists_zipIdx_split hroot
  rw [positions, hroots, List.flatMap_append, List.flatMap_cons]
  simp only [hpositions, List.map_append, List.map_map, ← List.append_assoc]
  exact ⟨_, _, List.append_assoc ..⟩

/-- The nodes of the walk that do not stand inside the one at the place. -/
def outside (schema : Schema) (place : Place) : List Node :=
  (schema.positions.filter fun entry => ¬place.Encloses entry.1).map Prod.snd

/-- The walk of the node at a place is one stretch of that of the schema, and what is left without
the stretch is what stands outside the node. -/
theorem exists_walk_split (htarget : schema.at? place = some target) :
    ∃ before after, schema.walk = before ++ target.walk ++ after ∧
      schema.outside place = before ++ after := by
  obtain ⟨before, after, hpositions⟩ := exists_positions_split htarget
  -- equal nodes may stand in several places, so it is by places that the stretch is told apart
  have hinside : ∀ entry ∈ schema.positions, place.Encloses entry.1 ↔
      entry ∈ target.positions.map fun entry => (place.below entry.1, entry.2) := by
    rintro ⟨_, node⟩ hentry
    rw [Place.encloses_iff, List.mem_map]
    constructor
    · rintro ⟨rest, rfl⟩
      refine ⟨(rest, node), Node.mem_positions_iff.mpr ?_, rfl⟩
      rw [← at?_below htarget rest]
      exact mem_positions_iff.mp hentry
    · rintro ⟨⟨rest, _⟩, -, heq⟩
      exact ⟨rest, (congrArg Prod.fst heq).symm⟩
  have hnodup : schema.positions.Nodup := .of_map _ schema.nodup_positions
  refine ⟨before.map Prod.snd, after.map Prod.snd, ?_, ?_⟩
  · rw [← positions_map_snd, hpositions, List.map_append, List.map_append, List.map_map,
      ← Node.positions_map_snd]
    rfl
  · rw [hpositions] at hnodup hinside
    rw [outside, hpositions, filter_outside_stretch hnodup hinside, List.map_append]

end Schema

end Forms
