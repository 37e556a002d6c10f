import Forms.Proofs.Tree.Edits
import Forms.Proofs.Tree.Search

/-!
# Which node an operation addresses

Finding and updating meet the first node of the walk that has the identifier.  Removing looks at all
members of a sequence before it looks inside any of them.  The two part only where an identifier
repeats: removing then takes a member of a sequence although an earlier member holds the node that
finding gives.
-/

namespace Forms

/-- The first address leads into an earlier member of the very sequence in which the second one
ends. -/
inductive Address.InsideEarlierSibling : (first second : Address) → Prop where
  | here {slot earlier later : Nat} (hlt : earlier < later) {inside : Address}
      (hinside : inside ≠ []) : InsideEarlierSibling (⟨slot, earlier⟩ :: inside) [⟨slot, later⟩]
  | deeper {first second : Address} (step : Step) (h : InsideEarlierSibling first second) :
      InsideEarlierSibling (step :: first) (step :: second)

/-- How the end of a search for a node to remove stands to the first match of the walk. -/
inductive Follows (Hits : Address → Prop) : (first : Option Address) → Removal Address → Prop where
  | absent : Follows Hits none .absent
  | found {first erased : Address} (hits : Hits erased)
      (order : first = erased ∨ first.InsideEarlierSibling erased) :
      Follows Hits (some first) (.found erased)
  | required {first : Address} {region : String} : Follows Hits (some first) (.required region)

namespace Follows

variable {Hits Inside : Address → Prop}

theorem below {first : Option Address} {removal : Removal Address}
    (h : Follows Inside first removal) {step : Step}
    (hhits : ∀ address, Inside address → Hits (step :: address)) :
    Follows Hits (first.map (step :: ·)) (removal.map (step :: ·)) := by
  cases h with
  | absent => exact .absent
  | found hits order =>
      refine .found (hhits _ hits) (order.imp ?_ (.deeper step))
      exact congrArg (step :: ·)
  | required => exact .required

/-- Searches that follow one by one follow as a whole. -/
theorem first {α : Type} {items : List α} {search : α → Option Address}
    {seek : α → Removal Address} (h : ∀ item ∈ items, Follows Hits (search item) (seek item)) :
    Follows Hits (items.findSome? search) (Removal.first (items.map seek)) := by
  induction items with
  | nil => exact .absent
  | cons item items ih =>
      rw [List.forall_mem_cons] at h
      rw [List.findSome?_cons, List.map_cons]
      obtain ⟨hitem, hitems⟩ := h
      revert hitem
      generalize search item = located, seek item = removal
      rintro (_ | ⟨hits, order⟩ | _)
      · exact ih hitems
      · exact .found hits order
      · exact .required

end Follows

theorem findSome?_flatMap {α β γ : Type} (inner : α → List β) (search : β → Option γ)
    (items : List α) :
    (items.flatMap inner).findSome? search =
      items.findSome? fun item => (inner item).findSome? search := by
  induction items with
  | nil => rfl
  | cons item items ih =>
      rw [List.flatMap_cons, List.findSome?_append, List.findSome?_cons, ih]
      cases (inner item).findSome? search <;> rfl

namespace Node

/-- A search below a node follows the walk below it. -/
def FollowsBelow (id : String) (node : Node) : Prop :=
  Follows (fun address => ∃ target, node.at? address = some target ∧ target.id.text = id)
    (node.locateBelow? id) (Candidate.ofNode id node).inside

end Node

namespace Candidate

variable {id : String} {number : Nat} {Hits : Address → Prop}

@[simp]
theorem id_ofNode (id : String) (node : Node) : (ofNode id node).id = node.id.text := by
  rw [ofNode, Node.fold_eq]

theorem inside_ofNode (id : String) (node : Node) :
    (ofNode id node).inside = seekBody id (node.body.map (ofNode id)) := by
  rw [ofNode, Node.fold_eq]
  rfl

theorem findIdx?_map_ofNode (id : String) (nodes : List Node) :
    ((nodes.map (ofNode id)).findIdx? fun candidate => candidate.id == id) =
      nodes.findIdx? fun node => node.id.text == id := by
  simp [List.findIdx?_map, Function.comp_def]

/-- A slot that may be empty is searched like a sequence. -/
theorem seekSlot_optional (id key : String) (node : Option Node) :
    seekSlot id ((⟨key, .optional node⟩ : Slot Node).map (ofNode id)) =
      seek id (node.toList.map (ofNode id)) := by
  cases node <;> rfl

/-- The first match in a sequence of nodes, by the address from the node that holds the sequence. -/
def locateAmong? (id : String) (number : Nat) (nodes : List Node) : Option Address :=
  nodes.zipIdx.findSome? fun (node, position) =>
    (node.locate? id).map (⟨number, position⟩ :: ·)

/-- A member of the sequence with the identifier comes first in the search, and stands behind
whatever the walk meets before it. -/
theorem follows_of_findIdx? {nodes : List Node} {position : Nat}
    (hposition : nodes.findIdx? (fun node => node.id.text == id) = some position)
    (hhits : ∀ node, nodes[position]? = some node → node.id.text = id →
      Hits [⟨number, position⟩]) :
    Follows Hits (locateAmong? id number nodes) (.found [⟨number, position⟩]) := by
  obtain ⟨hlt, hid, hbefore⟩ := List.findIdx?_eq_some_iff_getElem.mp hposition
  simp only [beq_iff_eq] at hid hbefore
  have hmember : (nodes[position], position) ∈ nodes.zipIdx := by
    rw [List.mem_zipIdx_iff_getElem?]
    exact List.getElem?_eq_getElem hlt
  have hlocated : (nodes[position].locate? id).map (⟨number, position⟩ :: ·) =
      some [⟨number, position⟩] := by
    rw [Node.locate?_eq, if_pos hid]
    rfl
  cases hfirst : locateAmong? id number nodes with
  | none =>
      have hnone := List.findSome?_eq_none_iff.mp hfirst _ hmember
      simp [hlocated] at hnone
  | some first =>
      refine .found (hhits _ (List.getElem?_eq_getElem hlt) hid) ?_
      obtain ⟨before, ⟨node, earlier⟩, after, hsplit, hfound, hnone⟩ :=
        List.findSome?_eq_some_iff.mp hfirst
      obtain ⟨inside, hinside, rfl⟩ := Option.map_eq_some_iff.mp hfound
      have hnode : nodes[earlier]? = some node := by
        have hmem : (node, earlier) ∈ nodes.zipIdx := by simp [hsplit]
        exact List.mem_zipIdx_iff_getElem?.mp hmem
      have hearlier : before.length = earlier := by
        have hget : nodes.zipIdx[before.length]? = some (node, earlier) := by simp [hsplit]
        rw [List.getElem?_zipIdx] at hget
        obtain ⟨_, -, heq⟩ := Option.map_eq_some_iff.mp hget
        simpa using congrArg Prod.snd heq
      rcases Nat.lt_trichotomy earlier position with hless | rfl | hgreater
      · right
        apply Address.InsideEarlierSibling.here hless
        rintro rfl
        obtain ⟨hbound, rfl⟩ := List.getElem?_eq_some_iff.mp hnode
        rw [Node.locate?_eq, if_neg (hbefore earlier hless)] at hinside
        obtain ⟨⟨step, child⟩, -, hchild⟩ := List.exists_of_findSome?_eq_some hinside
        simp at hchild
      · left
        rw [List.getElem?_eq_getElem hlt, Option.some.injEq] at hnode
        rw [← hnode, Node.locate?_eq, if_pos hid, Option.some.injEq] at hinside
        rw [← hinside]
      · -- the member would stand among those in which nothing was found
        have hmem : (nodes[position], position) ∈ before := by
          have hget : nodes.zipIdx[position]? = some (nodes[position], position) := by
            simp [List.getElem?_zipIdx, List.getElem?_eq_getElem hlt]
          rw [hsplit, List.getElem?_append_left (by omega)] at hget
          exact List.mem_of_getElem? hget
        have hlost := hnone _ hmem
        simp [hlocated] at hlost

/-- A search of a sequence follows the walk when the searches below its members do. -/
theorem follows_seek {nodes : List Node} (h : ∀ node ∈ nodes, node.FollowsBelow id)
    (hhits : ∀ node position, nodes[position]? = some node → ∀ address target,
      node.at? address = some target → target.id.text = id →
        Hits (⟨number, position⟩ :: address)) :
    Follows Hits (locateAmong? id number nodes)
      ((seek id (nodes.map (ofNode id))).map fun (position, address) =>
        ⟨number, position⟩ :: address) := by
  rw [seek, findIdx?_map_ofNode]
  cases hposition : nodes.findIdx? fun node => node.id.text == id with
  | some position =>
      exact follows_of_findIdx? hposition fun node hnode hid =>
        hhits node position hnode [] node rfl hid
  | none =>
      have hmap : ∀ searches : List (Removal (Nat × Address)),
          (Removal.first searches).map (fun (position, address) =>
            (⟨number, position⟩ : Step) :: address) =
          Removal.first (searches.map (Removal.map fun (position, address) =>
            (⟨number, position⟩ : Step) :: address)) := by
        intro searches
        induction searches with
        | nil => rfl
        | cons search searches ih => cases search <;> first | exact ih | rfl
      rw [hmap, List.zipIdx_map, List.map_map, List.map_map]
      apply Follows.first
      rintro ⟨node, position⟩ hnode
      have hmem := List.fst_mem_of_mem_zipIdx hnode
      rw [List.mem_zipIdx_iff_getElem?] at hnode
      have hother : node.id.text ≠ id := by
        simpa using List.findIdx?_eq_none_iff.mp hposition node hmem
      have hbelow : Follows Hits ((node.locateBelow? id).map (⟨number, position⟩ :: ·))
          ((ofNode id node).inside.map (⟨number, position⟩ :: ·)) :=
        (h node hmem).below fun address ⟨target, htarget, hid⟩ =>
          hhits node position hnode address target htarget hid
      revert hbelow
      simp only [Function.comp_apply, Node.locate?_eq, if_neg hother, Prod.map_apply, id_eq]
      cases (ofNode id node).inside <;> exact fun hbelow => hbelow

/-- A search of one slot follows the walk of what the slot holds. -/
theorem follows_seekSlot {slot : Slot Node}
    (h : ∀ node ∈ slot.content.toList, node.FollowsBelow id)
    (hhits : ∀ node position, slot.content.toList[position]? = some node → ∀ address target,
      node.at? address = some target → target.id.text = id →
        Hits (⟨number, position⟩ :: address)) :
    Follows Hits (locateAmong? id number slot.content.toList)
      ((seekSlot id (slot.map (ofNode id))).map fun (position, address) =>
        ⟨number, position⟩ :: address) := by
  obtain ⟨key, content⟩ := slot
  cases content with
  | sequence nodes => exact follows_seek h hhits
  | optional node =>
      rw [seekSlot_optional]
      exact follows_seek h hhits
  | required node =>
      have hlocate : locateAmong? id number [node] =
          (node.locate? id).map (⟨number, 0⟩ :: ·) := by
        simp [locateAmong?]
      simp only [Slot.map, SlotContent.map, SlotContent.toList, seekSlot, id_ofNode, hlocate]
      rw [Node.locate?_eq]
      split
      · exact .required
      · have hbelow : Follows Hits ((node.locateBelow? id).map (⟨number, 0⟩ :: ·))
            ((ofNode id node).inside.map (⟨number, 0⟩ :: ·)) := by
          apply (h node List.mem_cons_self).below
          rintro address ⟨target, htarget, hid⟩
          exact hhits node 0 rfl address target htarget hid
        revert hbelow
        cases (ofNode id node).inside <;> exact fun hbelow => hbelow

/-- A search below a node follows the walk below it, on all levels. -/
theorem followsBelow (id : String) (node : Node) : node.FollowsBelow id := by
  induction node using Node.induct with
  | node node ih =>
      have hslots : node.locateBelow? id =
          node.body.slots.zipIdx.findSome? fun (slot, number) =>
            locateAmong? id number slot.content.toList := by
        rw [Node.locateBelow?, Body.steps, findSome?_flatMap]
        simp only [List.findSome?_map]
        rfl
      rw [Node.FollowsBelow, hslots, inside_ofNode, seekBody, Body.slots_map, List.zipIdx_map,
        List.map_map]
      apply Follows.first
      rintro ⟨slot, number⟩ hslot
      rw [List.mem_zipIdx_iff_getElem?] at hslot
      have hsteps : ∀ child position, slot.content.toList[position]? = some child →
          node.body.child? ⟨number, position⟩ = some child := by
        intro child position hchild
        simp only [Body.child?, hslot, hchild]
      apply follows_seekSlot
      · intro child hchild
        obtain ⟨position, hposition⟩ := List.getElem?_of_mem hchild
        exact ih child (Body.mem_children_of_child? (hsteps child position hposition))
      · intro child position hchild address target htarget hid
        refine ⟨target, ?_, hid⟩
        rw [Node.at?, hsteps child position hchild, Option.bind_some, htarget]

end Candidate

/-- The address from a node that would hold the roots of the schema. -/
def Place.path (place : Place) : Address := ⟨0, place.root⟩ :: place.address

theorem Place.path_injective : Function.Injective Place.path := by
  rintro ⟨_, _⟩ ⟨_, _⟩ heq
  cases heq
  rfl

namespace Schema

/-- The path leads to a node with the identifier. -/
def Hits (schema : Schema) (id : String) (path : Address) : Prop :=
  ∃ place target, path = Place.path place ∧ schema.at? place = some target ∧ target.id.text = id

/-- The search for a node to remove follows the walk of the schema. -/
theorem follows_removal (schema : Schema) (id : String) :
    Follows (schema.Hits id) ((schema.locate? id).map Place.path)
      ((schema.removal id).map Place.path) := by
  have hlocate : (schema.locate? id).map Place.path =
      Candidate.locateAmong? id 0 schema.nodes := by
    rw [locate?, List.map_findSome?]
    simp only [Function.comp_def, Option.map_map]
    rfl
  have hfollows : Follows (schema.Hits id) (Candidate.locateAmong? id 0 schema.nodes)
      ((Candidate.seek id (schema.nodes.map (Candidate.ofNode id))).map fun (root, address) =>
        ⟨0, root⟩ :: address) := by
    apply Candidate.follows_seek fun node _ => Candidate.followsBelow id node
    intro node root hnode address target htarget hid
    exact ⟨⟨root, address⟩, target, rfl, by rw [at?, hnode, Option.bind_some, htarget], hid⟩
  rw [hlocate, removal]
  revert hfollows
  cases Candidate.seek id (schema.nodes.map (Candidate.ofNode id)) <;> exact fun h => h

/-! ## Repeated identifiers -/

/-- Two members of a sequence count apart. -/
theorem count_ids_add_le {nodes : List Node} {earlier later : Nat} (hlt : earlier < later)
    {first second : Node} (hfirst : nodes[earlier]? = some first)
    (hsecond : nodes[later]? = some second) (id : String) :
    first.ids.count id + second.ids.count id ≤ (nodes.flatMap Node.ids).count id := by
  obtain ⟨hlater, rfl⟩ := List.getElem?_eq_some_iff.mp hsecond
  have hmem : first ∈ nodes.take later := by
    rw [← List.getElem?_take_of_lt hlt] at hfirst
    exact List.mem_of_getElem? hfirst
  have hsublist : first.ids.Sublist ((nodes.take later).flatMap Node.ids) := by
    rw [List.flatMap_def]
    exact List.sublist_flatten_of_mem (List.mem_map_of_mem hmem)
  calc
    first.ids.count id + nodes[later].ids.count id ≤
        ((nodes.take later).flatMap Node.ids).count id +
          ((nodes.drop later).flatMap Node.ids).count id := by
      rw [List.drop_eq_getElem_cons hlater, List.flatMap_cons, List.count_append]
      exact Nat.add_le_add (hsublist.count_le id) (Nat.le_add_right _ _)
    _ = (nodes.flatMap Node.ids).count id := by
      rw [← List.count_append, ← List.flatMap_append, List.take_append_drop]

theorem one_le_count_ids {address : Address} {node target : Node}
    (htarget : node.at? address = some target) : 1 ≤ node.ids.count target.id.text := by
  rw [Nat.one_le_iff_ne_zero, Ne, List.count_eq_zero, not_not]
  exact List.mem_map_of_mem (Node.mem_walk_of_at? htarget)

/-- An identifier that is met inside an earlier sibling as well repeats below the node. -/
theorem two_le_count_ids_below {id : String} {first second : Address}
    (horder : first.InsideEarlierSibling second) {node found erased : Node}
    (hfound : node.at? first = some found) (herased : node.at? second = some erased)
    (hids : found.id.text = id ∧ erased.id.text = id) :
    2 ≤ (node.body.children.flatMap Node.ids).count id := by
  induction horder generalizing node with
  | @here slot earlier later hlt inside hinside =>
      obtain ⟨holder, hholder, hbelow⟩ := Option.bind_eq_some_iff.mp hfound
      obtain ⟨member, hmember, hself⟩ := Option.bind_eq_some_iff.mp herased
      simp only [Body.child?] at hholder hmember
      split at hholder
      · rename_i held hheld
        rw [hheld] at hmember
        have hpair := count_ids_add_le hlt hholder hmember id
        have hfirst : 1 ≤ holder.ids.count id := hids.1 ▸ one_le_count_ids hbelow
        have hsecond : 1 ≤ member.ids.count id := hids.2 ▸ one_le_count_ids hself
        obtain ⟨before, after, hchildren, -⟩ := Body.exists_children_split hheld
        rw [hchildren, List.flatMap_append, List.flatMap_append, List.count_append,
          List.count_append]
        omega
      · cases hholder
  | deeper step _ ih =>
      obtain ⟨child, hchild, hinside⟩ := Option.bind_eq_some_iff.mp hfound
      obtain ⟨same, hsame, hlast⟩ := Option.bind_eq_some_iff.mp herased
      rw [hchild, Option.some.injEq] at hsame
      subst hsame
      obtain ⟨before, after, hchildren, -⟩ := Body.exists_modifyChild_split hchild
      have hbelow := ih hinside hlast
      rw [hchildren, List.flatMap_append, List.flatMap_cons, Node.ids_eq, List.count_append,
        List.count_append, List.count_cons]
      omega

theorem two_le_count_ids {schema : Schema} {id : String} {first second : Place}
    (horder : first.path.InsideEarlierSibling second.path) {found erased : Node}
    (hfound : schema.at? first = some found) (herased : schema.at? second = some erased)
    (hids : found.id.text = id ∧ erased.id.text = id) : 2 ≤ schema.ids.count id := by
  obtain ⟨root, address⟩ := first
  obtain ⟨other, rest⟩ := second
  obtain ⟨holder, hholder, hbelow⟩ := Option.bind_eq_some_iff.mp hfound
  obtain ⟨member, hmember, hself⟩ := Option.bind_eq_some_iff.mp herased
  rw [ids_eq_flatMap]
  cases horder with
  | here hlt hinside =>
      have hpair := count_ids_add_le hlt hholder hmember id
      have hfirst : 1 ≤ holder.ids.count id := hids.1 ▸ one_le_count_ids hbelow
      have hsecond : 1 ≤ member.ids.count id := hids.2 ▸ one_le_count_ids hself
      omega
  | deeper _ horder =>
      rw [hholder, Option.some.injEq] at hmember
      subst hmember
      have hinside := two_le_count_ids_below horder hbelow hself hids
      obtain ⟨before, after, hnodes, -⟩ := exists_modify_split hholder
      rw [hnodes, List.flatMap_append, List.flatMap_cons, Node.ids_eq, List.count_append,
        List.count_append, List.count_cons]
      omega

/-! ## Removing beside finding -/

/-- What the search finds has the identifier. -/
theorem exists_at?_of_locate? {schema : Schema} {id : String} {found : Place}
    (hlocate : schema.locate? id = some found) {other : Node} (hother : other ∈ schema.walk)
    (hid : other.id.text = id) : ∃ node, schema.at? found = some node ∧ node.id.text = id := by
  have hfind : schema.at? found = schema.find? id := by
    rw [← at?_locate?, hlocate, Option.bind_some]
  rw [hfind]
  cases hnode : schema.find? id with
  | none =>
      rw [find?, List.find?_eq_none] at hnode
      exact absurd hid (by simpa using hnode other hother)
  | some node => exact ⟨node, rfl, by simpa using List.find?_some hnode⟩

/-- What is removed has the identifier, and it is the node that finding and updating meet, unless
that one lies inside an earlier member of the sequence that what is removed was taken from.  Where
the identifier does not repeat they are the same node. -/
theorem remove_beside_find {schema rest : Schema} {id : String} {removed : Node}
    (hremove : schema.remove id = .ok (removed, rest)) :
    ∃ found erased : Place,
      (schema.locate? id = some found ∧ schema.at? found = schema.find? id) ∧
      (schema.at? erased = some removed ∧ removed.id.text = id ∧ rest = schema.eraseAt erased) ∧
      (found = erased ∨ found.path.InsideEarlierSibling erased.path) ∧
      (schema.ids.count id ≤ 1 → found = erased ∧ schema.find? id = some removed) := by
  obtain ⟨erased, herased, hremoved, rfl⟩ := remove_eq_ok hremove
  have hfollows := follows_removal schema id
  rw [herased] at hfollows
  cases hlocate : schema.locate? id with
  | none =>
      rw [hlocate] at hfollows
      cases hfollows
  | some found =>
      have hfind : schema.at? found = schema.find? id := by
        rw [← at?_locate?, hlocate, Option.bind_some]
      rw [hlocate] at hfollows
      obtain ⟨⟨place, target, hpath, htarget, hid⟩, horder⟩ : schema.Hits id erased.path ∧
          (found.path = erased.path ∨ found.path.InsideEarlierSibling erased.path) := by
        cases hfollows with
        | found hits order => exact ⟨hits, order⟩
      rw [← Place.path_injective hpath, hremoved, Option.some.injEq] at htarget
      subst htarget
      have horder := horder.imp_left fun heq => Place.path_injective heq
      refine ⟨found, erased, ⟨rfl, hfind⟩, ⟨hremoved, hid, rfl⟩, horder, ?_⟩
      intro hunique
      have hsame : found = erased := by
        refine horder.resolve_right fun hinside => ?_
        obtain ⟨node, hfound, hnode⟩ :=
          exists_at?_of_locate? hlocate (mem_walk_of_at? hremoved) hid
        have htwo := two_le_count_ids hinside hfound hremoved ⟨hnode, hid⟩
        omega
      rw [← hfind, hsame]
      exact ⟨rfl, hremoved⟩

/-- A badge inside a card, and behind the card a badge with the same identifier. -/
def twoBadges : Json := .object
  [("nodes", .array
    [.object [("id", .string "frame"), ("tag", .string "card"), ("content", .array
      [.object [("id", .string "x"), ("tag", .string "badge"), ("text", .string "inner")]])],
    .object [("id", .string "x"), ("tag", .string "badge"), ("text", .string "outer")]])]

theorem remove_beside_find_twoBadges :
    ∃ schema removed rest, decode .value twoBadges = .ok schema ∧
      schema.remove "x" = .ok (removed, rest) ∧
      ∃ found erased : Place, schema.locate? "x" = some found ∧ schema.at? erased = some removed ∧
        (found = erased ∨ found.path.InsideEarlierSibling erased.path) := by
  obtain ⟨schema, removed, rest, hread, hremove⟩ : ∃ schema removed rest,
      decode .value twoBadges = .ok schema ∧ schema.remove "x" = .ok (removed, rest) :=
    ⟨_, _, _, rfl, rfl⟩
  obtain ⟨found, erased, ⟨hfound, -⟩, ⟨herased, -, -⟩, horder, -⟩ := remove_beside_find hremove
  exact ⟨schema, removed, rest, hread, hremove, found, erased, hfound, herased, horder⟩

/-- Removing need not take the node that finding gives. -/
theorem not_find?_of_remove :
    ¬∀ (value : Json) (schema rest : Schema) (id : String) (removed : Node),
      decode .value value = .ok schema → schema.remove id = .ok (removed, rest) →
        schema.find? id = some removed := by
  intro hsame
  have hfind := hsame twoBadges _ _ "x" _ rfl rfl
  have htext := congrArg (Option.map fun node : Node => node.toJson) hfind
  revert htext
  decide

end Schema

end Forms
