import Forms.Decode.Text
import Forms.Node.Written
import Forms.Schema.Basic

/-!
# Schemas in JSON

A schema is written with its nodes under `nodes`; it is read from the older name `components` as
well.  Nothing else of the text it was read from is kept.
-/

namespace Forms

/-- What a reader of nodes asks for. -/
def Node.shape : Shape := .openRecord [("visibleIf", .condition)]

namespace Schema

/-- The written form, members in the order of the record. -/
def toJson (schema : Schema) : Json :=
  .object (optionalEntry "title" .string schema.title
    ++ optionalEntry "description" .string schema.description
    ++ [("nodes", .array (schema.nodes.map Node.toJson))]
    ++ optionalEntry "initialValues" .object schema.initialValues)

def decode : Decoder Schema :=
  Decode.record "FormSchema"
    (Schema.mk <$> Fields.omissible "title" Decode.string
      <*> Fields.omissible "description" Decode.string
      <*> Fields.aliased ["nodes", "components"] (Decode.list Node.decode) []
      <*> Fields.omissible "initialValues" Decode.members)

def shape : Shape :=
  .record [("title", .whole), ("description", .whole), ("nodes", .each Node.shape),
    ("initialValues", .whole), ("components", .each Node.shape)]

def ofText (text : String) : Outcome Schema := Decode.fromText shape decode text

/-- The text that a schema is kept as. -/
def text (schema : Schema) : String := schema.toJson.pretty

/-- Whether two schemas are written alike; they differ at most in the predicates of custom rules. -/
def writtenAlike (left right : Schema) : Bool := left.toJson == right.toJson

end Schema

end Forms
