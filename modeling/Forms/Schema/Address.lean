import Forms.Node.Address
import Forms.Schema.Basic

/-!
# Places in a schema

A place is a root node and an address inside it.
-/

namespace Forms

structure Place where
  root : Nat
  address : Address
deriving DecidableEq

namespace Schema

/-- The place of the first node of the walk that has the identifier. -/
def locate? (schema : Schema) (id : String) : Option Place :=
  schema.nodes.zipIdx.findSome? fun (node, root) => (node.locate? id).map (Place.mk root)

def at? (schema : Schema) (place : Place) : Option Node :=
  (schema.nodes[place.root]?).bind (Node.at? place.address)

/-- The schema with the node at a place changed. -/
def modifyAt (schema : Schema) (place : Place) (change : Node → Node) : Schema :=
  { schema with nodes := schema.nodes.modify place.root (Node.modifyAt change place.address) }

end Schema

end Forms
