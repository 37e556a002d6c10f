import Forms.Node.Basic

/-!
# Addresses inside a node

An address leads from a node to one of its descendants, slot by slot.  Searching gives an address
and editing takes one, so that what is found and what is changed are the same node.
-/

namespace Forms

/-- The way from a node to one of its children. -/
structure Step where
  /-- Number of the slot. -/
  slot : Nat
  /-- Position in the slot; zero when the slot holds a single node. -/
  position : Nat
deriving DecidableEq

/-- The way from a node to a descendant; the empty address is the node itself. -/
abbrev Address := List Step

namespace Body

variable {Child Result : Type}

/-- The children in all slots, each with the way to it. -/
def steps (body : Body Child) : List (Step × Child) :=
  body.slots.zipIdx.flatMap fun (slot, number) =>
    slot.content.toList.zipIdx.map fun (child, position) => (⟨number, position⟩, child)

def child? (body : Body Child) (step : Step) : Option Child :=
  match body.slots[step.slot]? with
  | some slot => slot.content.toList[step.position]?
  | none => none

/-- The body with one child changed. -/
def modifyChild (body : Body Child) (step : Step) (change : Child → Child) : Body Child :=
  body.editSlot step.slot
    ⟨fun nodes => nodes.modify step.position change, Option.map change, change⟩

/-- The body without the child at a step.  A slot that must be filled keeps its child. -/
def eraseChild (body : Body Child) (step : Step) : Body Child :=
  body.editSlot step.slot
    ⟨fun nodes => nodes.eraseIdx step.position, fun _ => none, fun child => child⟩

end Body

namespace Node

/-- The address of the first node with the identifier, in the order of the walk. -/
def locate? (id : String) (node : Node) : Option Address :=
  node.fold fun node found =>
    if node.id.text = id then some []
    else found.steps.findSome? fun (step, address) => address.map (step :: ·)

def at? : Address → Node → Option Node
  | [], node => some node
  | step :: address, node => (node.body.child? step).bind (at? address)

/-- The node with the descendant at an address changed. -/
def modifyAt (change : Node → Node) : Address → Node → Node
  | [], node => change node
  | step :: address, node =>
    { node with body := node.body.modifyChild step (modifyAt change address) }

end Node

end Forms
