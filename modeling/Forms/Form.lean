import Forms.Rendering
import Forms.Schema.Basic
import Forms.Session

/-!
# Forms

A form is a schema with a session on it.  Its rules are collected from the fields, and its values
start from those of the schema, completed field by field.
-/

namespace Forms

namespace Schema

/-- The rules of all fields by binding key.  Of several fields that bind one key the last one
counts; a field without rules does not. -/
def fieldRules (schema : Schema) : FieldRules :=
  Entries.ofWrites (schema.walk.filterMap fun node =>
    if node.rules.isEmpty then none else node.bindingKey?.map fun key => (key, node.rules))

/-- Completes values by the default of a field, or its empty value, unless they have its key. -/
def seedField (values : Values) (node : Node) : Values :=
  match node.body with
  | .field input props =>
    match values.get? props.name.text with
    | some _ => values
    | none => values.insert props.name.text (props.value.getD input.emptyValue)
  | _ => values

/-- The values that a document starts with. -/
def seedValues (schema : Schema) : Values :=
  schema.walk.foldl seedField (schema.initialValues.getD [])

end Schema

structure Form where
  schema : Schema
  rules : FieldRules
  session : Session

/-- A form as it is drawn. -/
structure RenderedForm where
  title : Option String
  description : Option String
  nodes : List RenderedNode
  errors : Errors
  isSubmitting : Bool
  revision : Nat

namespace Form

def ofSchema (schema : Schema) : Form :=
  ⟨schema, schema.fieldRules, Session.ofValues schema.seedValues⟩

def render (form : Form) : RenderedForm where
  title := form.schema.title
  description := form.schema.description
  nodes := renderNodes form.session.values form.session.errors form.schema.nodes
  errors := form.session.errors
  isSubmitting := form.session.isSubmitting
  revision := form.session.revision

end Form

/-- How a form answers when the handler ends; its failure is not passed on. -/
def SubmitOutcome.ofHandler (result : Outcome Unit) : SubmitOutcome :=
  match result with
  | .ok _ => .submitted
  | .error _ => .handlerFailed

def errorsJson (errors : Errors) : Json :=
  .object (errors.map fun (key, message) => (key, .string message))

/-- Revisions are kept in 64-bit words. -/
def revisionJson (revision : Nat) : Json := .number (.ofUInt64 (UInt64.ofNat revision))

namespace RenderedForm

def toJson (form : RenderedForm) : Json :=
  .object (optionalEntry "title" .string form.title
    ++ optionalEntry "description" .string form.description
    ++ [("nodes", .array (form.nodes.map RenderedNode.toJson)), ("errors", errorsJson form.errors),
      ("isSubmitting", .bool form.isSubmitting), ("revision", revisionJson form.revision)])

end RenderedForm

end Forms
