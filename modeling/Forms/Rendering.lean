import Forms.Condition.Evaluation
import Forms.Node.Basic
import Forms.Rule.Validation

/-!
# Rendering

A tree of nodes is rendered against the values and errors of a document.  A node whose condition
does not hold is left out with all it holds, and so is a node of unknown tag; what remains keeps its
order.  A container keeps all its regions, also those in which nothing is visible.
-/

namespace Forms

/-- What a field is drawn with. -/
structure RenderedField where
  /-- The binding key. -/
  name : String
  label : Option String
  value : Json
  error : Option String
deriving DecidableEq

/-- A visible node. -/
structure RenderedNode where
  id : String
  tag : String
  widget : String
  field : Option RenderedField
  regions : List (Region RenderedNode)

namespace Body

variable {Child : Type}

/-- The name of what draws the node; all kinds of text input share one.  Unknown tags have none. -/
def widget? : Body Child → Option String
  | .field (.text ..) _ => some "text-input"
  | .unknown _ _ => none
  | body => some body.tag

end Body

namespace Region

variable {Child Result : Type}

def filterMap (f : Child → Option Result) (region : Region Child) : Region Result :=
  ⟨region.key, region.label, region.nodes.filterMap f⟩

end Region

namespace Field

def render (values : Values) (errors : Errors) (field : Field) : RenderedField :=
  ⟨field.name.text, field.label, values.valueOf field.name.text, errors.get? field.name.text⟩

end Field

namespace Node

/-- The rendered form of a node, given those of its children. -/
def renderWith (values : Values) (errors : Errors) (node : Node)
    (body : Body (Option RenderedNode)) : Option RenderedNode :=
  if Condition.isVisible values node.visibleIf then
    body.widget?.map fun widget =>
      ⟨node.id.text, node.tag, widget, body.field?.map (Field.render values errors),
        body.regions.map (Region.filterMap fun child => child)⟩
  else none

def render? (values : Values) (errors : Errors) (node : Node) : Option RenderedNode :=
  node.fold (renderWith values errors)

end Node

/-- The visible nodes of a sequence. -/
def renderNodes (values : Values) (errors : Errors) (nodes : List Node) : List RenderedNode :=
  nodes.filterMap (Node.render? values errors)

namespace RenderedNode

mutual
/-- Identifiers of a rendered node and all that it holds, depth first. -/
def ids : RenderedNode → List String
  | ⟨id, _, _, _, regions⟩ => id :: idsOfRegions regions

def idsOfRegions : List (Region RenderedNode) → List String
  | [] => []
  | ⟨_, _, nodes⟩ :: regions => idsOfNodes nodes ++ idsOfRegions regions

def idsOfNodes : List RenderedNode → List String
  | [] => []
  | node :: nodes => ids node ++ idsOfNodes nodes
end

end RenderedNode

namespace RenderedField

def toJson (field : RenderedField) : Json :=
  .object ([("name", .string field.name)] ++ optionalEntry "label" .string field.label
    ++ [("value", field.value)] ++ optionalEntry "error" .string field.error)

end RenderedField

namespace RenderedNode

/-- Regions are left out when there are none. -/
def regionsEntry : List Json → List (String × Json)
  | [] => []
  | region :: regions => [("regions", .array (region :: regions))]

mutual
def toJson : RenderedNode → Json
  | ⟨id, tag, widget, field, regions⟩ =>
    .object ([("id", .string id), ("tag", .string tag), ("widget", .string widget)]
      ++ optionalEntry "field" RenderedField.toJson field
      ++ regionsEntry (jsonOfRegions regions))

def jsonOfRegions : List (Region RenderedNode) → List Json
  | [] => []
  | ⟨key, label, nodes⟩ :: regions =>
    .object ([("key", .string key)] ++ optionalEntry "label" .string label
      ++ [("nodes", .array (jsonOfNodes nodes))]) :: jsonOfRegions regions

def jsonOfNodes : List RenderedNode → List Json
  | [] => []
  | node :: nodes => toJson node :: jsonOfNodes nodes
end

end RenderedNode

end Forms
