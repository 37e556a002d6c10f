import Forms.Choice.Basic
import Forms.Occurrence

/-!
# Columns of a record

Forms are generated from the columns of a data source.  A column has a type and constraints; a
mapping says which kind of field it becomes.
-/

namespace Forms

structure LengthConstraints where
  maxLength : Option UInt32
  minLength : Option UInt32
deriving DecidableEq

namespace LengthConstraints

def none : LengthConstraints := ⟨.none, .none⟩

def decode : Decoder LengthConstraints :=
  Decode.record "ColumnConstraints"
    (LengthConstraints.mk <$> Fields.omissible "maxLength" Decode.count32
      <*> Fields.omissible "minLength" Decode.count32)

def shape : Shape := .record [("maxLength", .whole), ("minLength", .whole)]

end LengthConstraints

structure Column where
  /-- The name becomes the binding key. -/
  name : String
  typeName : String
  nullable : Bool
  isPrimaryKey : Bool
  constraints : Option LengthConstraints
deriving DecidableEq

namespace Column

def holdsMany (column : Column) : Bool :=
  column.typeName == "array" || occursIn ['[', ']'] column.typeName.toList

def decode : Decoder Column :=
  Decode.record "ColumnSchema"
    (Column.mk <$> Fields.required "name" Decode.string
      <*> Fields.required "type" Decode.string
      <*> Fields.defaulting "nullable" Decode.boolean false
      <*> Fields.defaulting "isPrimaryKey" Decode.boolean false
      <*> Fields.omissible "constraints" LengthConstraints.decode)

def shape : Shape :=
  .record [("name", .whole), ("type", .whole), ("nullable", .whole), ("isPrimaryKey", .whole),
    ("constraints", LengthConstraints.shape)]

end Column

/-- How a column becomes a field. -/
structure ColumnMapping where
  column : Column
  /-- The tag of the field; one that is no field becomes a text input. -/
  componentType : String
  label : String
  required : Bool
  defaultValue : Option Json
  choices : List Choice
deriving DecidableEq

namespace ColumnMapping

def decode : Decoder ColumnMapping :=
  Decode.record "ColumnMapping"
    (ColumnMapping.mk <$> Fields.required "column" Column.decode
      <*> Fields.required "componentType" Decode.string
      <*> Fields.required "label" Decode.string
      <*> Fields.defaulting "required" Decode.boolean false
      <*> Fields.omissible "defaultValue" Decode.any
      <*> Fields.defaulting "options" (Decode.list Choice.decode) [])

def shape : Shape :=
  .record [("column", Column.shape), ("componentType", .whole), ("label", .whole),
    ("required", .whole), ("defaultValue", .whole),
    ("options", .each Choice.shape)]

end ColumnMapping

end Forms
