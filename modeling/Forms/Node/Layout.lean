import Forms.Node.Display

/-!
# Layouts

Containers hold other nodes.  A layout is written over whatever its children are: nodes, their
written forms, or what has been computed from them.  It is seen in two ways.  Its *regions* are what
is shown, with a heading where there is one, and leave out a slot that is not filled.  Its *slots*
are the places that can be edited, filled or not; some hold a sequence, some at most one child, some
exactly one.
-/

namespace Forms

/-- A titled part of a container with children of its own. -/
structure Section (Extras Child : Type) where
  id : String
  heading : String
  content : List Child
  extras : Extras

structure TabExtras where
  disabled : Option Bool
  icon : Option String
deriving DecidableEq

structure StepExtras where
  skippable : Option Bool
  completed : Option Bool
deriving DecidableEq

structure PanelExtras where
  disabled : Option Bool
deriving DecidableEq

inductive Layout (Child : Type) where
  | tabs (sections : List (Section TabExtras Child)) (defaultTab : Option String)
  | stepper (steps : List (Section StepExtras Child)) (currentStep : UInt32)
      (allowSkip : Option Bool)
  | accordion (panels : List (Section PanelExtras Child)) (defaultOpen : Option (List String))
      (allowMultiple : Option Bool)
  | card (header : Option Child) (content : List Child) (footer : Option Child)
      (variant : Option String)
  | modal (trigger : Child) (title : Option String) (content : List Child) (size : Option String)
      (closeOnOverlay : Option Bool)
  | grid (columns : Json) (gap : Option Json) (children : List Child)
  | tooltip (content : String) (child : Child) (position trigger : Option String)

/-- Part of a container as it is shown. -/
structure Region (Child : Type) where
  key : String
  label : Option String
  nodes : List Child

/-- What a place for children holds. -/
inductive SlotContent (Child : Type) where
  | sequence (nodes : List Child)
  | optional (node : Option Child)
  | required (node : Child)

structure Slot (Child : Type) where
  key : String
  content : SlotContent Child

/-- How a slot is edited, by what it holds.  A slot that must be filled stays filled. -/
structure SlotEdit (Child : Type) where
  sequence : List Child → List Child
  optional : Option Child → Option Child
  required : Child → Child

def SlotContent.toList {Child : Type} : SlotContent Child → List Child
  | .sequence nodes => nodes
  | .optional node => node.toList
  | .required node => [node]

namespace Section

variable {Extras Child Result : Type}

def map (f : Child → Result) (part : Section Extras Child) : Section Extras Result :=
  { part with content := part.content.map f }

def region (scope : String) (part : Section Extras Child) : Region Child :=
  ⟨s!"{scope}:{part.id}", some part.heading, part.content⟩

def slot (scope : String) (part : Section Extras Child) : Slot Child :=
  ⟨s!"{scope}:{part.id}", .sequence part.content⟩

def edit (change : List Child → List Child) (part : Section Extras Child) : Section Extras Child :=
  { part with content := change part.content }

/-- The written form under the names of the heading and of the extra members. -/
def toJson (headingKey : String) (extraEntries : Extras → List (String × Json))
    (part : Section Extras Json) : Json :=
  .object ([("id", .string part.id), (headingKey, .string part.heading),
    ("content", .array part.content)] ++ extraEntries part.extras)

def decode (name headingKey : String) (extras : Fields Extras) (child : Decoder Child) :
    Decoder (Section Extras Child) :=
  Decode.record name
    (Section.mk <$> Fields.required "id" Decode.string
      <*> Fields.required headingKey Decode.string
      <*> Fields.defaulting "content" (Decode.list child) []
      <*> extras)

end Section

namespace TabExtras

def entries (extras : TabExtras) : List (String × Json) :=
  optionalEntry "disabled" .bool extras.disabled ++ optionalEntry "icon" .string extras.icon

def fields : Fields TabExtras :=
  TabExtras.mk <$> Fields.optional "disabled" Decode.boolean
    <*> Fields.optional "icon" Decode.string

end TabExtras

namespace StepExtras

def entries (extras : StepExtras) : List (String × Json) :=
  optionalEntry "optional" .bool extras.skippable
    ++ optionalEntry "completed" .bool extras.completed

def fields : Fields StepExtras :=
  StepExtras.mk <$> Fields.optional "optional" Decode.boolean
    <*> Fields.optional "completed" Decode.boolean

end StepExtras

namespace PanelExtras

def entries (extras : PanelExtras) : List (String × Json) :=
  optionalEntry "disabled" .bool extras.disabled

def fields : Fields PanelExtras := PanelExtras.mk <$> Fields.optional "disabled" Decode.boolean

end PanelExtras

namespace Layout

variable {Child Result : Type}

def tag : Layout Child → String
  | .tabs .. => "tabs"
  | .stepper .. => "stepper"
  | .accordion .. => "accordion"
  | .card .. => "card"
  | .modal .. => "modal"
  | .grid .. => "grid"
  | .tooltip .. => "tooltip"

def map (f : Child → Result) : Layout Child → Layout Result
  | .tabs sections defaultTab => .tabs (sections.map (·.map f)) defaultTab
  | .stepper steps currentStep allowSkip => .stepper (steps.map (·.map f)) currentStep allowSkip
  | .accordion panels defaultOpen allowMultiple =>
    .accordion (panels.map (·.map f)) defaultOpen allowMultiple
  | .card header content footer variant =>
    .card (header.map f) (content.map f) (footer.map f) variant
  | .modal trigger title content size closeOnOverlay =>
    .modal (f trigger) title (content.map f) size closeOnOverlay
  | .grid columns gap children => .grid columns gap (children.map f)
  | .tooltip content child position trigger => .tooltip content (f child) position trigger

def filledRegion (key : String) (node : Option Child) : List (Region Child) :=
  match node with
  | some node => [⟨key, none, [node]⟩]
  | none => []

/-- What is shown, in order. -/
def regions : Layout Child → List (Region Child)
  | .tabs sections _ => sections.map (·.region "tab")
  | .stepper steps _ _ => steps.map (·.region "step")
  | .accordion panels _ _ => panels.map (·.region "panel")
  | .card header content footer _ =>
    filledRegion "header" header ++ [⟨"content", none, content⟩] ++ filledRegion "footer" footer
  | .modal trigger title content _ _ => [⟨"trigger", none, [trigger]⟩, ⟨"content", title, content⟩]
  | .grid _ _ children => [⟨"children", none, children⟩]
  | .tooltip _ child _ _ => [⟨"children", none, [child]⟩]

/-- The places for children, in the order of the regions. -/
def slots : Layout Child → List (Slot Child)
  | .tabs sections _ => sections.map (·.slot "tab")
  | .stepper steps _ _ => steps.map (·.slot "step")
  | .accordion panels _ _ => panels.map (·.slot "panel")
  | .card header content footer _ =>
    [⟨"header", .optional header⟩, ⟨"content", .sequence content⟩, ⟨"footer", .optional footer⟩]
  | .modal trigger _ content _ _ => [⟨"trigger", .required trigger⟩, ⟨"content", .sequence content⟩]
  | .grid _ _ children => [⟨"children", .sequence children⟩]
  | .tooltip _ child _ _ => [⟨"children", .required child⟩]

/-- The layout with one of its slots edited; without that slot it stays as it is. -/
def editSlot (slot : Nat) (edit : SlotEdit Child) : Layout Child → Layout Child
  | .tabs sections defaultTab => .tabs (sections.modify slot (·.edit edit.sequence)) defaultTab
  | .stepper steps currentStep allowSkip =>
    .stepper (steps.modify slot (·.edit edit.sequence)) currentStep allowSkip
  | .accordion panels defaultOpen allowMultiple =>
    .accordion (panels.modify slot (·.edit edit.sequence)) defaultOpen allowMultiple
  | .card header content footer variant =>
    match slot with
    | 0 => .card (edit.optional header) content footer variant
    | 1 => .card header (edit.sequence content) footer variant
    | 2 => .card header content (edit.optional footer) variant
    | _ => .card header content footer variant
  | .modal trigger title content size closeOnOverlay =>
    match slot with
    | 0 => .modal (edit.required trigger) title content size closeOnOverlay
    | 1 => .modal trigger title (edit.sequence content) size closeOnOverlay
    | _ => .modal trigger title content size closeOnOverlay
  | .grid columns gap children =>
    match slot with
    | 0 => .grid columns gap (edit.sequence children)
    | _ => .grid columns gap children
  | .tooltip content child position trigger =>
    match slot with
    | 0 => .tooltip content (edit.required child) position trigger
    | _ => .tooltip content child position trigger

/-- The children, in the order in which they are shown. -/
def children (layout : Layout Child) : List Child := layout.regions.flatMap Region.nodes

/-- The members of a layout whose children are in their written form. -/
def entries : Layout Json → List (String × Json)
  | .tabs sections defaultTab =>
    [("tabs", .array (sections.map (·.toJson "label" TabExtras.entries)))]
      ++ optionalEntry "defaultTab" .string defaultTab
  | .stepper steps currentStep allowSkip =>
    [("steps", .array (steps.map (·.toJson "label" StepExtras.entries))),
      ("currentStep", count32Json currentStep)]
      ++ optionalEntry "allowSkip" .bool allowSkip
  | .accordion panels defaultOpen allowMultiple =>
    [("panels", .array (panels.map (·.toJson "title" PanelExtras.entries)))]
      ++ optionalEntry "defaultOpen" Json.ofStrings defaultOpen
      ++ optionalEntry "allowMultiple" .bool allowMultiple
  | .card header content footer variant =>
    optionalEntry "header" id header ++ [("content", .array content)]
      ++ optionalEntry "footer" id footer ++ optionalEntry "variant" .string variant
  | .modal trigger title content size closeOnOverlay =>
    [("trigger", trigger)] ++ optionalEntry "title" .string title ++ [("content", .array content)]
      ++ optionalEntry "size" .string size ++ optionalEntry "closeOnOverlay" .bool closeOnOverlay
  | .grid columns gap children =>
    [("columns", columns)] ++ optionalEntry "gap" id gap ++ [("children", .array children)]
  | .tooltip content child position trigger =>
    [("content", .string content), ("children", child)] ++ optionalEntry "position" .string position
      ++ optionalEntry "trigger" .string trigger

/-- The fields that a tag adds, given how a child is read; none when the tag is no container. -/
def fields? (child : Decoder Child) (tag : String) : Option (Fields (Layout Child)) :=
  match tag with
  | "tabs" => some
    (Layout.tabs
      <$> Fields.defaulting "tabs"
        (Decode.list (Section.decode "TabItem" "label" TabExtras.fields child)) []
      <*> Fields.optional "defaultTab" Decode.string)
  | "stepper" => some
    (Layout.stepper
      <$> Fields.defaulting "steps"
        (Decode.list (Section.decode "StepItem" "label" StepExtras.fields child)) []
      <*> Fields.defaulting "currentStep" Decode.count32 0
      <*> Fields.optional "allowSkip" Decode.boolean)
  | "accordion" => some
    (Layout.accordion
      <$> Fields.defaulting "panels"
        (Decode.list (Section.decode "AccordionPanel" "title" PanelExtras.fields child)) []
      <*> Fields.optional "defaultOpen" (Decode.list Decode.string)
      <*> Fields.optional "allowMultiple" Decode.boolean)
  | "card" => some
    (Layout.card <$> Fields.optional "header" child
      <*> Fields.defaulting "content" (Decode.list child) []
      <*> Fields.optional "footer" child
      <*> Fields.optional "variant" Decode.string)
  | "modal" => some
    (Layout.modal <$> Fields.required "trigger" child
      <*> Fields.optional "title" Decode.string
      <*> Fields.defaulting "content" (Decode.list child) []
      <*> Fields.optional "size" Decode.string
      <*> Fields.optional "closeOnOverlay" Decode.boolean)
  | "grid" => some
    (Layout.grid <$> Fields.required "columns" Decode.any
      <*> Fields.optional "gap" Decode.any
      <*> Fields.defaulting "children" (Decode.list child) [])
  | "tooltip" => some
    (Layout.tooltip <$> Fields.required "content" Decode.string
      <*> Fields.required "children" child
      <*> Fields.optional "position" Decode.string
      <*> Fields.optional "trigger" Decode.string)
  | _ => none

end Layout

end Forms
