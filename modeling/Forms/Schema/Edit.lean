import Forms.Node.Removal
import Forms.Schema.Address
import Forms.Schema.Written

/-!
# Editing a schema

Nodes are inserted, updated and removed by identifier.  An edit gives the edited schema or a
failure; no edit adds an identifier that the schema has already.  When a schema was read with
repeated identifiers, each edit concerns the first node that its search meets.
-/

namespace Forms

/-- A sequence of children: one region of a container. -/
structure RegionRef where
  nodeId : String
  region : String
deriving DecidableEq

/-- Where a node is inserted. -/
structure Insertion where
  /-- The sequence of root nodes has no region. -/
  parent : Option RegionRef
  /-- Past the end it means the end. -/
  index : Nat
deriving DecidableEq

namespace RegionRef

def decode : Decoder RegionRef :=
  Decode.record "RegionRef"
    (RegionRef.mk <$> Fields.required "nodeId" Decode.string
      <*> Fields.required "region" Decode.string)

end RegionRef

namespace Insertion

def root (index : Nat) : Insertion := ⟨none, index⟩

def inRegion (nodeId region : String) (index : Nat) : Insertion := ⟨some ⟨nodeId, region⟩, index⟩

def decode : Decoder Insertion :=
  Decode.record "NodeSlot"
    (Insertion.mk <$> Fields.optional "parent" RegionRef.decode
      <*> Fields.required "index" Decode.position)

end Insertion

/-- The first text that is among the ones already seen, or that comes twice. -/
def firstRepeated? (seen : List String) : List String → Option String
  | [] => none
  | text :: texts => if text ∈ seen then some text else firstRepeated? (text :: seen) texts

/-- A sequence with one more item; past the end it is appended. -/
def insertAt {α : Type} (index : Nat) (item : α) (items : List α) : List α :=
  items.take index ++ item :: items.drop index

namespace Node

/-- The node with a child inserted into the first region of the key. -/
def insertInRegion (node : Node) (region : String) (index : Nat) (child : Node) : Outcome Node :=
  match node.body.slots.findIdx? fun slot => slot.key == region with
  | none => .error (.regionNotFound region node.id.text)
  | some number =>
    match (node.body.slots[number]?).map Slot.content with
    | some (.sequence _) =>
      .ok { node with
        body := node.body.editSlot number
          ⟨insertAt index child, fun held => held, fun held => held⟩ }
    | _ => .error (.singleNodeRegion region node.id.text)

/-- The node as an object, its members by ascending key. -/
def members (node : Node) : Members :=
  match node.toJson.canonical with
  | .object members => members
  | _ => []

/-- The node read again after a patch has been written over its members.  A patch may repeat the
identifier but not change it. -/
def patched (node : Node) (patch : Members) : Outcome Node :=
  match patch.get? "id" with
  | some id =>
    if id = .string node.id.text then Decode.fromValue decode (.object (node.members.merge patch))
    else .error (.fixedId node.id.text)
  | none => Decode.fromValue decode (.object (node.members.merge patch))

end Node

namespace Schema

/-- Inserts a node with all it holds. -/
def insert (schema : Schema) (place : Insertion) (node : Node) : Outcome Schema :=
  match firstRepeated? schema.ids node.ids with
  | some id => .error (.duplicateId id)
  | none =>
    match place.parent with
    | none => .ok { schema with nodes := insertAt place.index node schema.nodes }
    | some parent =>
      match schema.locate? parent.nodeId with
      | none => .error (.containerNotFound parent.nodeId)
      | some container =>
        match schema.at? container with
        | none => .error (.containerNotFound parent.nodeId)
        | some held => do
          let edited ← held.insertInRegion parent.region place.index node
          .ok (schema.modifyAt container fun _ => edited)

/-- The first identifier inside `updated` that occurs more often there than in `previous`, and that
the schema would then hold more than once. -/
def addedDuplicate? (schema : Schema) (previous updated : Node) : Option String :=
  updated.ids.find? fun id =>
    let before := previous.ids.count id
    let after := updated.ids.count id
    decide (before < after) && decide (1 < schema.ids.count id - before + after)

/-- Writes a patch over one node. -/
def update (schema : Schema) (id : String) (patch : Members) : Outcome Schema :=
  match schema.locate? id with
  | none => .error (.nodeNotFound id)
  | some place =>
    match schema.at? place with
    | none => .error (.nodeNotFound id)
    | some node => do
      let updated ← node.patched patch
      match schema.addedDuplicate? node updated with
      | some duplicate => .error (.duplicateId duplicate)
      | none => .ok (schema.modifyAt place fun _ => updated)

/-- Where the node to remove is. -/
def removal (schema : Schema) (id : String) : Removal Place :=
  (Candidate.seek id (schema.nodes.map (Candidate.ofNode id))).map fun (root, address) =>
    ⟨root, address⟩

/-- The schema without the node at a place. -/
def eraseAt (schema : Schema) (place : Place) : Schema :=
  match place.address with
  | [] => { schema with nodes := schema.nodes.eraseIdx place.root }
  | address => { schema with nodes := schema.nodes.modify place.root (Node.eraseAt address) }

/-- Removes a node with all it holds; gives the node and the rest. -/
def remove (schema : Schema) (id : String) : Outcome (Node × Schema) :=
  match schema.removal id with
  | .absent => .error (.nodeNotFound id)
  | .required region => .error (.requiredRegion id region)
  | .found place =>
    match schema.at? place with
    | none => .error (.nodeNotFound id)
    | some node => .ok (node, schema.eraseAt place)

end Schema

end Forms
