import Forms.Column
import Forms.Schema.Written

/-!
# Generating forms

A form for a record has one field per column, in the order of the columns, and a button that submits
it.  Rules that follow from a column can be generated with it, and so can default values.
-/

namespace Forms

/-- What the form does with the record. -/
inductive SubmitAction where
  | create
  | update
  | delete
deriving DecidableEq

namespace SubmitAction

def label : SubmitAction → String
  | .create => "Create"
  | .update => "Update"
  | .delete => "Delete"

def decode : Decoder SubmitAction :=
  Decode.variant [("create", .create), ("update", .update), ("delete", .delete)]

end SubmitAction

structure GenerationConfig where
  title : String
  description : String
  submitAction : SubmitAction
  includeValidation : Bool
  includeDefaultValues : Bool
  columns : List ColumnMapping
deriving DecidableEq

namespace GenerationConfig

def decode : Decoder GenerationConfig :=
  Decode.record "FormGenerationConfig"
    (GenerationConfig.mk <$> Fields.required "title" Decode.string
      <*> Fields.defaulting "description" Decode.string ""
      <*> Fields.required "submitAction" SubmitAction.decode
      <*> Fields.defaulting "includeValidation" Decode.boolean false
      <*> Fields.defaulting "includeDefaultValues" Decode.boolean false
      <*> Fields.required "columns" (Decode.list ColumnMapping.decode))

def shape : Shape :=
  .record [("title", .whole), ("description", .whole), ("submitAction", .whole),
    ("includeValidation", .whole), ("includeDefaultValues", .whole),
    ("columns", .each ColumnMapping.shape)]

end GenerationConfig

/-- A length that bounds something; zero bounds nothing. -/
def positiveLength (length : Option UInt32) : Option UInt32 :=
  length.filter fun length => decide (0 < length)

/-- Any characters, line breaks among them, at most `length`. -/
def atMostPattern (length : UInt32) : String := s!"^(?s).\x7b0,{length}\x7d$"

/-- Any characters, line breaks among them, at least `length`. -/
def atLeastPattern (length : UInt32) : String := s!"^(?s).\x7b{length},\x7d$"

namespace LengthConstraints

def rules (constraints : LengthConstraints) : Outcome (List Rule) := do
  let longest ← (positiveLength constraints.maxLength).toList.mapM fun length =>
    Rule.pattern? (atMostPattern length) s!"Maximum length is {length} characters"
  let shortest ← (positiveLength constraints.minLength).toList.mapM fun length =>
    Rule.pattern? (atLeastPattern length) s!"Minimum length is {length} characters"
  .ok (longest ++ shortest)

end LengthConstraints

/-- A rule under a condition. -/
def ruleWhen (condition : Bool) (rule : Outcome Rule) : Outcome (List Rule) :=
  if condition then rule.map fun rule => [rule] else .ok []

namespace Column

def lengthRules (column : Column) : Outcome (List Rule) :=
  match column.constraints with
  | some constraints => constraints.rules
  | none => .ok []

/-- The rules that follow from a column alone, for a field of the kind. -/
def rules (column : Column) (componentType : Option String) : Outcome (List Rule) := do
  let required ← ruleWhen (!column.nullable) (Rule.required? (some s!"{column.name} is required"))
  let email ← ruleWhen (column.typeName == "string" && componentType == some "email")
    (Rule.email? none)
  let lengths ← column.lengthRules
  .ok (required ++ email ++ lengths)

end Column

namespace ColumnMapping

def rules (mapping : ColumnMapping) : Outcome (List Rule) := do
  let required ← ruleWhen mapping.required (Rule.required? (some s!"{mapping.label} is required"))
  let email ← ruleWhen (mapping.componentType == "email") (Rule.email? none)
  let lengths ← mapping.column.lengthRules
  .ok (required ++ email ++ lengths)

/-- What the field adds to those that all fields share. -/
def input (mapping : ColumnMapping) : Input :=
  let constraints := mapping.column.constraints.getD .none
  match mapping.componentType with
  | "textarea" => .textarea (some 4) none none constraints.maxLength none
  | "select" => .select mapping.choices (some mapping.column.holdsMany) none
  | "radio" => .radio mapping.choices
  | "checkbox" => .checkbox none none
  | "file" => .file none none none none
  | tag =>
    match TextKind.find? tag with
    | some kind => .text kind none none none constraints.minLength constraints.maxLength none
    | none => .text .text none none none none none none

def node (mapping : ColumnMapping) (includeValidation : Bool) : Outcome Node := do
  let field ← Field.of? mapping.column.name
  let rules ← if includeValidation then mapping.rules else .ok []
  Node.of? s!"field-{mapping.column.name}"
    (.field mapping.input
      { field with
          label := some mapping.label, required := some mapping.required, validation := rules })

end ColumnMapping

def submitButton (action : SubmitAction) : Outcome Node :=
  Node.of? "submit-button" (.display
    (.button s!"{action.label} Record" (some "primary") none (some "submit") none none none))

namespace GenerationConfig

/-- The columns that become fields; a record that is being created has no key yet. -/
def keptColumns (config : GenerationConfig) : List ColumnMapping :=
  config.columns.filter fun mapping =>
    !(mapping.column.isPrimaryKey && config.submitAction == .create)

/-- The configured defaults of the columns. -/
def defaults (config : GenerationConfig) : Values :=
  if config.includeDefaultValues then
    Entries.ofWrites (config.keptColumns.filterMap fun mapping =>
      mapping.defaultValue.map fun value => (mapping.column.name, value))
  else []

def schema (config : GenerationConfig) : Outcome Schema := do
  let fields ← config.keptColumns.mapM fun mapping => mapping.node config.includeValidation
  let button ← submitButton config.submitAction
  .ok ⟨some config.title, some config.description, fields ++ [button], some config.defaults⟩

end GenerationConfig

end Forms
