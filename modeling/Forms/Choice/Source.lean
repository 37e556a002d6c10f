import Forms.Choice.Basic
import Forms.Readings

/-!
# Sources of choices

A select field may take its choices from elsewhere.  The source describes the request, and how the
rows of the answer become choices.  The request has a signature, under which its answer is
remembered; the headers of the request and the mapping of the rows are no part of it.
-/

namespace Forms

inductive Method where
  | get
  | post
deriving DecidableEq

namespace Method

def name : Method → String
  | .get => "GET"
  | .post => "POST"

def decode : Decoder Method := Decode.variant [("GET", .get), ("POST", .post)]

end Method

structure ChoiceSource where
  url : NonBlank
  declaredMethod : Option Method
  headers : Option (Entries String)
  params : Option Members
  valueField : Option String
  labelField : Option String
deriving DecidableEq

namespace ChoiceSource

def of? (url : String) : Outcome ChoiceSource := do
  let url ← Outcome.ofBlank? (NonBlank.ofString? url)
  .ok ⟨url, none, none, none, none, none⟩

def method (source : ChoiceSource) : Method := source.declaredMethod.getD .get

def headersJson (headers : Entries String) : Json :=
  .object (headers.map fun (name, value) => (name, .string value))

def toJson (source : ChoiceSource) : Json :=
  .object ([("url", .string source.url.text)]
    ++ optionalEntry "method" (fun method => .string (Method.name method)) source.declaredMethod
    ++ optionalEntry "headers" headersJson source.headers
    ++ optionalEntry "params" .object source.params
    ++ optionalEntry "valueField" .string source.valueField
    ++ optionalEntry "labelField" .string source.labelField)

def decode : Decoder ChoiceSource :=
  Decode.record "OptionSource"
    (ChoiceSource.mk <$> Fields.required "url" Decode.nonBlank
      <*> Fields.omissible "method" Method.decode
      <*> Fields.omissible "headers" (Decode.map Decode.string)
      <*> Fields.omissible "params" Decode.members
      <*> Fields.omissible "valueField" Decode.string
      <*> Fields.omissible "labelField" Decode.string)

/-- The text under which the answer to a request is remembered. -/
def signature (source : ChoiceSource) : String :=
  (Json.object
    [("method", Json.ofOption (fun method => .string (Method.name method)) source.declaredMethod),
      ("params", Json.ofOption .object source.params),
      ("url", .string source.url.text)]).compact

end ChoiceSource

namespace Json

/-- A member of a row; a row that is no object has none. -/
def member? (row : Json) (key : String) : Option Json :=
  match row with
  | .object members => Entries.get? members key
  | _ => none

/-- The first of several members that is filled in. -/
def firstPresent? (row : Json) (keys : List String) : Option Json :=
  (keys.filterMap row.member?).find? isPresent

/-- A string itself, any other value as JSON text. -/
def displayText : Json → String
  | .string content => content
  | other => other.compact

end Json

namespace ChoiceSource

def choiceValue : Json → ChoiceValue
  | .number value => .number value
  | other => .text other.displayText

/-- The choice that a row stands for.  Its value is the configured member, or else `id` or `value`;
its label is the configured member, or else `name`, `label` or the text of the row. -/
def choiceOfRow (source : ChoiceSource) (row : Json) : Choice :=
  let value := (row.firstPresent? [source.valueField.getD "value", "id", "value"]).map choiceValue
  let label :=
    (row.firstPresent? [source.labelField.getD "label", "name", "label"]).map Json.displayText
  ⟨value.getD (.text ""), label.getD row.displayText, none, none⟩

/-- The choices of an answer; one that is no array has none. -/
def choicesOfRows (source : ChoiceSource) (rows : Json) : List Choice :=
  match rows with
  | .array rows => rows.map source.choiceOfRow
  | _ => []

end ChoiceSource

end Forms
