import Forms.Node.Address

/-!
# Finding a node to remove

Removal looks at the members of a sequence before it looks inside any of them.  It ends at a node
that fills a slot which must stay filled: such a node cannot be removed.
-/

namespace Forms

/-- How a search for a node to remove ends. -/
inductive Removal (α : Type) where
  | absent
  | found (place : α)
  /-- The node fills a slot that must stay filled. -/
  | required (region : String)

namespace Removal

variable {α β : Type}

def map (f : α → β) : Removal α → Removal β
  | .absent => .absent
  | .found place => .found (f place)
  | .required region => .required region

/-- The first of several searches that ends somewhere. -/
def first : List (Removal α) → Removal α
  | [] => .absent
  | .absent :: searches => first searches
  | search :: _ => search

end Removal

/-- A node as a search sees it: its identifier, and the search inside it. -/
structure Candidate where
  id : String
  inside : Removal Address

namespace Candidate

/-- Searches a sequence, its members first; gives a position in it and the address from there. -/
def seek (id : String) (candidates : List Candidate) : Removal (Nat × Address) :=
  match candidates.findIdx? fun candidate => candidate.id == id with
  | some position => .found (position, [])
  | none => Removal.first (candidates.zipIdx.map fun (candidate, position) =>
      candidate.inside.map fun address => (position, address))

/-- Searches one slot. -/
def seekSlot (id : String) (slot : Slot Candidate) : Removal (Nat × Address) :=
  match slot.content with
  | .sequence candidates => seek id candidates
  | .optional candidate => seek id candidate.toList
  | .required candidate =>
    if candidate.id = id then .required slot.key
    else candidate.inside.map fun address => (0, address)

/-- Searches all slots of a node. -/
def seekBody (id : String) (body : Body Candidate) : Removal Address :=
  Removal.first (body.slots.zipIdx.map fun (slot, number) =>
    (seekSlot id slot).map fun (position, address) => ⟨number, position⟩ :: address)

/-- What a search for the identifier sees of a node. -/
def ofNode (id : String) (node : Node) : Candidate :=
  node.fold fun node candidates => ⟨node.id.text, seekBody id candidates⟩

end Candidate

/-- The node without the descendant at an address.  The node itself cannot be taken out
of itself. -/
def Node.eraseAt : Address → Node → Node
  | [], node => node
  | [step], node => { node with body := node.body.eraseChild step }
  | step :: address, node => { node with body := node.body.modifyChild step (eraseAt address) }

end Forms
