import Forms.Choice.Source
import Forms.Rule.Basic

/-!
# Fields

A field is a node that binds a value of the document.  All fields share the members that bind and
check the value; the kind of input adds its own.
-/

namespace Forms

/-- The kinds of single-line text input; each is a tag of its own. -/
inductive TextKind where
  | text
  | email
  | password
  | number
  | date
  | time
  | dateTimeLocal
deriving DecidableEq

namespace TextKind

def tag : TextKind → String
  | .text => "text"
  | .email => "email"
  | .password => "password"
  | .number => "number"
  | .date => "date"
  | .time => "time"
  | .dateTimeLocal => "datetime-local"

def all : List TextKind := [.text, .email, .password, .number, .date, .time, .dateTimeLocal]

def find? (tag : String) : Option TextKind := all.find? fun kind => kind.tag == tag

def ofTag (tag : String) : Outcome TextKind :=
  match find? tag with
  | some kind => .ok kind
  | none => .error (.unknownTextInput tag)

end TextKind

/-- What every field has. -/
structure Field where
  /-- The binding key. -/
  name : NonBlank
  label : Option String
  placeholder : Option String
  /-- The default of the field while the document has no value for it. -/
  value : Option Json
  disabled : Option Bool
  required : Option Bool
  readOnly : Option Bool
  validation : List Rule

namespace Field

def of? (name : String) : Outcome Field := do
  let name ← Outcome.ofBlank? (NonBlank.ofString? name)
  .ok ⟨name, none, none, none, none, none, none, []⟩

def entries (field : Field) : List (String × Json) :=
  [("name", .string field.name.text)]
    ++ optionalEntry "label" .string field.label
    ++ optionalEntry "placeholder" .string field.placeholder
    ++ optionalEntry "value" id field.value
    ++ optionalEntry "disabled" .bool field.disabled
    ++ optionalEntry "required" .bool field.required
    ++ optionalEntry "readOnly" .bool field.readOnly
    ++ (if field.validation.isEmpty then []
      else [("validation", .array (field.validation.map Rule.toJson))])

def fields : Fields Field :=
  Field.mk <$> Fields.required "name" Decode.nonBlank
    <*> Fields.optional "label" Decode.string
    <*> Fields.optional "placeholder" Decode.string
    <*> Fields.optional "value" Decode.any
    <*> Fields.optional "disabled" Decode.boolean
    <*> Fields.optional "required" Decode.boolean
    <*> Fields.optional "readOnly" Decode.boolean
    <*> Fields.defaulting "validation" (Decode.list Rule.decode) []

end Field

def count32Json (count : UInt32) : Json := .number (.ofUInt32 count)

def count64Json (count : UInt64) : Json := .number (.ofUInt64 count)

def choicesJson (choices : List Choice) : Json := .array (choices.map Choice.toJson)

/-- What a kind of input adds to the field. -/
inductive Input where
  | text (kind : TextKind) (min max step : Option Json) (minLength maxLength : Option UInt32)
      (pattern : Option String)
  | textarea (rows cols minLength maxLength : Option UInt32) (resize : Option String)
  | select (choices : List Choice) (multiple : Option Bool) (source : Option ChoiceSource)
  | radio (choices : List Choice)
  | checkbox (choices : Option (List Choice)) (single : Option Bool)
  | file (accept : Option String) (multiple : Option Bool) (maxSize : Option UInt64)
      (maxFiles : Option UInt32)

namespace Input

def tag : Input → String
  | .text kind .. => kind.tag
  | .textarea .. => "textarea"
  | .select .. => "select"
  | .radio .. => "radio"
  | .checkbox .. => "checkbox"
  | .file .. => "file"

/-- The value of a field that nobody has filled in. -/
def emptyValue : Input → Json
  | .text .. | .textarea .. | .radio .. => .string ""
  | .select _ multiple _ => if multiple = some true then .array [] else .string ""
  | .checkbox choices single =>
    if single = some true ∨ choices = none then .bool false else .array []
  | .file _ multiple _ _ => if multiple = some true then .array [] else .null

def entries : Input → List (String × Json)
  | .text _ min max step minLength maxLength pattern =>
    optionalEntry "min" id min ++ optionalEntry "max" id max ++ optionalEntry "step" id step
      ++ optionalEntry "minLength" count32Json minLength
      ++ optionalEntry "maxLength" count32Json maxLength
      ++ optionalEntry "pattern" .string pattern
  | .textarea rows cols minLength maxLength resize =>
    optionalEntry "rows" count32Json rows ++ optionalEntry "cols" count32Json cols
      ++ optionalEntry "minLength" count32Json minLength
      ++ optionalEntry "maxLength" count32Json maxLength
      ++ optionalEntry "resize" .string resize
  | .select choices multiple source =>
    [("options", choicesJson choices)] ++ optionalEntry "multiple" .bool multiple
      ++ optionalEntry "dataSource" ChoiceSource.toJson source
  | .radio choices => [("options", choicesJson choices)]
  | .checkbox choices single =>
    optionalEntry "options" choicesJson choices ++ optionalEntry "single" .bool single
  | .file accept multiple maxSize maxFiles =>
    optionalEntry "accept" .string accept ++ optionalEntry "multiple" .bool multiple
      ++ optionalEntry "maxSize" count64Json maxSize
      ++ optionalEntry "maxFiles" count32Json maxFiles

def textFields (kind : TextKind) : Fields Input :=
  Input.text kind <$> Fields.optional "min" Decode.any
    <*> Fields.optional "max" Decode.any
    <*> Fields.optional "step" Decode.any
    <*> Fields.optional "minLength" Decode.count32
    <*> Fields.optional "maxLength" Decode.count32
    <*> Fields.optional "pattern" Decode.string

/-- The fields that a tag adds; none when the tag is no input. -/
def fields? (tag : String) : Option (Fields Input) :=
  match TextKind.find? tag with
  | some kind => some (textFields kind)
  | none =>
    match tag with
    | "textarea" => some
      (Input.textarea <$> Fields.optional "rows" Decode.count32
        <*> Fields.optional "cols" Decode.count32
        <*> Fields.optional "minLength" Decode.count32
        <*> Fields.optional "maxLength" Decode.count32
        <*> Fields.optional "resize" Decode.string)
    | "select" => some
      (Input.select <$> Fields.defaulting "options" (Decode.list Choice.decode) []
        <*> Fields.optional "multiple" Decode.boolean
        <*> Fields.optional "dataSource" ChoiceSource.decode)
    | "radio" => some
      (Input.radio <$> Fields.defaulting "options" (Decode.list Choice.decode) [])
    | "checkbox" => some
      (Input.checkbox <$> Fields.optional "options" (Decode.list Choice.decode)
        <*> Fields.optional "single" Decode.boolean)
    | "file" => some
      (Input.file <$> Fields.optional "accept" Decode.string
        <*> Fields.optional "multiple" Decode.boolean
        <*> Fields.optional "maxSize" Decode.count64
        <*> Fields.optional "maxFiles" Decode.count32)
    | _ => none

end Input

end Forms
