import Forms.Node.Basic

/-!
# Nodes in JSON

A node is written as its identifier and its tag, then the members of its tag in ascending order,
then its visibility condition and presentation.  It is read the other way round: the members that
all nodes have are taken as they come, everything else is set aside, and the tag says how to read
it.  A tag that is not known keeps what was set aside.
-/

namespace Forms

namespace Body

/-- The members of the tag, of a body whose children are in their written form. -/
def entries : Body Json → List (String × Json)
  | .field input props => input.entries ++ props.entries
  | .display shown => shown.entries
  | .container layout => layout.entries
  | .unknown _ fields => fields

/-- The members of the tag by ascending key. -/
def members (body : Body Json) : Members :=
  match body with
  | .unknown _ fields => fields
  | body => Entries.ofWrites (Json.canonicalMembers body.entries)

/-- Reads the members of a known tag; the ones that all fields share are read last. -/
def readKnown? {Child : Type} (child : Decoder Child) (tag : String) (fields : Members) :
    Option (Except ReadError (Body Child)) :=
  match Input.fields? tag, Display.fields? tag, Layout.fields? child tag with
  | some input, _, _ => some do
    let input ← (input.byName .value fields).result
    let props ← (Field.fields.byName .collected fields).result
    .ok (.field input props)
  | none, some shown, _ => some ((shown.byName .value fields).result.map .display)
  | none, none, some layout => some ((layout.byName .value fields).result.map .container)
  | none, none, none => none

/-- The body of a tag and its members. -/
def ofMembers {Child : Type} (child : Decoder Child) (tag : String) (fields : Members) :
    Outcome (Body Child) :=
  match readKnown? child tag fields with
  | some (.ok body) => .ok body
  | some (.error error) => .error (.malformedNode tag error)
  | none => .ok (.unknown tag fields)

end Body

namespace Node

/-- The members that a node has beside those of its tag. -/
def frameEntries (node : Node) : List (String × Json) :=
  optionalEntry "visibleIf" Condition.toJson node.visibleIf
    ++ optionalEntry "style" (fun value => value) node.style
    ++ optionalEntry "className" (fun value => value) node.className
    ++ optionalEntry "styleConfig" (fun value => value) node.styleConfig

/-- The written form of a node, given those of its children. -/
def written (node : Node) (body : Body Json) : Json :=
  .object ([("id", .string node.id.text), ("tag", .string node.tag)] ++ body.members
    ++ node.frameEntries)

def toJson (node : Node) : Json := node.fold written

/-- The members of the tag. -/
def tagMembers (node : Node) : Members := (node.body.map toJson).members

/-- A node before its tag is looked at. -/
structure Frame where
  id : NonBlank
  tag : Option String
  legacyTag : Option String
  visibleIf : Option Condition
  style : Option Json
  className : Option Json
  styleConfig : Option Json

def frameKeys : List String :=
  ["id", "tag", "type", "visibleIf", "style", "className", "styleConfig"]

def frameFields : Fields Frame :=
  Frame.mk <$> Fields.required "id" Decode.nonBlank
    <*> Fields.optional "tag" Decode.string
    <*> Fields.optional "type" Decode.string
    <*> Fields.optional "visibleIf" Condition.decode
    <*> Fields.optional "style" Decode.any
    <*> Fields.optional "className" Decode.any
    <*> Fields.optional "styleConfig" Decode.any

/-- The tag of a node and the members that belong to it.  The older name `type` gives the tag only
when nothing else does; beside a tag it is a member like any other. -/
def tagAndMembers (frame : Frame) (rest : List (String × Json)) : Outcome (String × Members) :=
  let members := Entries.ofWrites (Json.canonicalMembers rest)
  match frame.tag, frame.legacyTag with
  | some tag, some legacyTag => .ok (tag, members.insert "type" (.string legacyTag))
  | some tag, none | none, some tag => .ok (tag, members)
  | none, none => .error (.missingTag frame.id.text)

def ofFrame (child : Decoder Node) (frame : Frame) (rest : List (String × Json)) :
    Outcome Node := do
  let (tag, members) ← tagAndMembers frame rest
  let body ← Body.ofMembers child tag members
  .ok ⟨frame.id, frame.visibleIf, frame.style, frame.className, frame.styleConfig, body⟩

/-- Reads a node of at most this many nested arrays and objects.  A value without any is no node. -/
def decodeWithin : (depth : Nat) → Decoder Node
  | 0, _, value => .error (Decode.mismatch value (.record "NodeRecord"))
  | depth + 1, origin, value => do
    let (frame, rest) ← Decode.openRecord "NodeRecord" frameKeys frameFields origin value
    (ofFrame (decodeWithin depth) frame rest).mapError .refused

def decode : Decoder Node := fun origin value => decodeWithin value.depth origin value

end Node

end Forms
