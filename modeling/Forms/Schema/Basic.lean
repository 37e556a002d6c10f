import Forms.Condition.Evaluation
import Forms.Node.Basic

/-!
# Form schemas

A schema describes one form: its nodes in order, and the values its document starts with.
-/

namespace Forms

structure Schema where
  title : Option String
  description : Option String
  nodes : List Node
  initialValues : Option Values

namespace Schema

/-- A schema without a title. -/
def ofNodes (nodes : List Node) : Schema := ⟨none, none, nodes, none⟩

/-- All nodes, each before its children. -/
def walk (schema : Schema) : List Node := schema.nodes.flatMap Node.walk

/-- Identifiers along the walk. -/
def ids (schema : Schema) : List String := schema.walk.map fun node => node.id.text

/-- The first node of the walk that has the identifier. -/
def find? (schema : Schema) (id : String) : Option Node :=
  schema.walk.find? fun node => node.id.text == id

end Schema

end Forms
