import Forms.Decode.Record
import Forms.Json.Written

/-!
# Choices

What a select, radio or checkbox field offers: a stored value, a label, and perhaps a group under
which the choice is listed.
-/

namespace Forms

inductive ChoiceValue where
  | text (content : String)
  | number (value : Number)
deriving DecidableEq

namespace ChoiceValue

def toJson : ChoiceValue → Json
  | .text content => .string content
  | .number value => .number value

def decode : Decoder ChoiceValue := fun _ value =>
  match value with
  | .string content => .ok (.text content)
  | .number value => .ok (.number value)
  | _ => .error (.noVariant "OptionValue")

end ChoiceValue

structure Choice where
  value : ChoiceValue
  label : String
  disabled : Option Bool
  group : Option String
deriving DecidableEq

namespace Choice

def toJson (choice : Choice) : Json :=
  .object ([("value", choice.value.toJson), ("label", .string choice.label)]
    ++ optionalEntry "disabled" .bool choice.disabled ++ optionalEntry "group" .string choice.group)

def decode : Decoder Choice :=
  Decode.record "SelectOption"
    (Choice.mk <$> Fields.required "value" ChoiceValue.decode
      <*> Fields.required "label" Decode.string
      <*> Fields.omissible "disabled" Decode.boolean
      <*> Fields.omissible "group" Decode.string)

def shape : Shape :=
  .record [("value", .whole), ("label", .whole), ("disabled", .whole), ("group", .whole)]

/-- Where choices without a group are listed. -/
def defaultGroup : String := "default"

def groupName (choice : Choice) : String := choice.group.getD defaultGroup

/-- Appends a choice to its group; a group that is not there yet comes last. -/
def addToGroups (choice : Choice) : List (String × List Choice) → List (String × List Choice)
  | [] => [(choice.groupName, [choice])]
  | (name, members) :: groups =>
    if name = choice.groupName then (name, members ++ [choice]) :: groups
    else (name, members) :: addToGroups choice groups

/-- Choices by group: groups in the order in which they first appear, choices in their own order. -/
def grouped (choices : List Choice) : List (String × List Choice) :=
  choices.foldl (fun groups choice => choice.addToGroups groups) []

end Choice

end Forms
