import Forms.Condition.Basic
import Forms.Node.Layout

/-!
# Nodes

A node is a field, a display or a container, or it has a tag that is not known and is kept as it was
read.  Every traversal of a tree of nodes is a `fold`: each node is computed from itself and from
what has been computed for its children, which stand where the children stood.
-/

namespace Forms

/-- What a node is, written over what its children are. -/
inductive Body (Child : Type) where
  | field (input : Input) (props : Field)
  | display (shown : Display)
  | container (layout : Layout Child)
  | unknown (tag : String) (fields : Members)

structure Node where
  id : NonBlank
  /-- The node is always visible without a condition. -/
  visibleIf : Option Condition
  style : Option Json
  className : Option Json
  styleConfig : Option Json
  body : Body Node

namespace Body

variable {Child Result : Type}

def tag : Body Child → String
  | .field input _ => input.tag
  | .display shown => shown.tag
  | .container layout => layout.tag
  | .unknown tag _ => tag

def map (f : Child → Result) : Body Child → Body Result
  | .field input props => .field input props
  | .display shown => .display shown
  | .container layout => .container (layout.map f)
  | .unknown tag fields => .unknown tag fields

def field? : Body Child → Option Field
  | .field _ props => some props
  | _ => none

def emptyValue? : Body Child → Option Json
  | .field input _ => some input.emptyValue
  | _ => none

def isContainer : Body Child → Bool
  | .container _ => true
  | _ => false

def regions : Body Child → List (Region Child)
  | .container layout => layout.regions
  | _ => []

def slots : Body Child → List (Slot Child)
  | .container layout => layout.slots
  | _ => []

def children (body : Body Child) : List Child := body.regions.flatMap Region.nodes

/-- The body with one slot of its container edited. -/
def editSlot (slot : Nat) (edit : SlotEdit Child) : Body Child → Body Child
  | .container layout => .container (layout.editSlot slot edit)
  | body => body

end Body

namespace Node

variable {Result : Type}

mutual
def fold (compute : Node → Body Result → Result) : Node → Result
  | ⟨id, visibleIf, style, className, styleConfig, body⟩ =>
    compute ⟨id, visibleIf, style, className, styleConfig, body⟩ (foldBody compute body)

def foldBody (compute : Node → Body Result → Result) : Body Node → Body Result
  | .field input props => .field input props
  | .display shown => .display shown
  | .container layout => .container (foldLayout compute layout)
  | .unknown tag fields => .unknown tag fields

def foldLayout (compute : Node → Body Result → Result) : Layout Node → Layout Result
  | .tabs sections defaultTab => .tabs (foldTabs compute sections) defaultTab
  | .stepper steps currentStep allowSkip => .stepper (foldSteps compute steps) currentStep allowSkip
  | .accordion panels defaultOpen allowMultiple =>
    .accordion (foldPanels compute panels) defaultOpen allowMultiple
  | .card header content footer variant =>
    .card (foldOptional compute header) (foldList compute content) (foldOptional compute footer)
      variant
  | .modal trigger title content size closeOnOverlay =>
    .modal (fold compute trigger) title (foldList compute content) size closeOnOverlay
  | .grid columns gap children => .grid columns gap (foldList compute children)
  | .tooltip content child position trigger =>
    .tooltip content (fold compute child) position trigger

def foldTabs (compute : Node → Body Result → Result) :
    List (Section TabExtras Node) → List (Section TabExtras Result)
  | [] => []
  | ⟨id, heading, content, extras⟩ :: sections =>
    ⟨id, heading, foldList compute content, extras⟩ :: foldTabs compute sections

def foldSteps (compute : Node → Body Result → Result) :
    List (Section StepExtras Node) → List (Section StepExtras Result)
  | [] => []
  | ⟨id, heading, content, extras⟩ :: sections =>
    ⟨id, heading, foldList compute content, extras⟩ :: foldSteps compute sections

def foldPanels (compute : Node → Body Result → Result) :
    List (Section PanelExtras Node) → List (Section PanelExtras Result)
  | [] => []
  | ⟨id, heading, content, extras⟩ :: sections =>
    ⟨id, heading, foldList compute content, extras⟩ :: foldPanels compute sections

def foldList (compute : Node → Body Result → Result) : List Node → List Result
  | [] => []
  | node :: nodes => fold compute node :: foldList compute nodes

def foldOptional (compute : Node → Body Result → Result) : Option Node → Option Result
  | none => none
  | some node => some (fold compute node)
end

section

variable (compute : Node → Body Result → Result)

theorem foldList_eq_map (nodes : List Node) :
    foldList compute nodes = nodes.map (fold compute) := by
  induction nodes with
  | nil => simp [foldList]
  | cons node nodes ih => simp [foldList, ih]

theorem foldOptional_eq_map (node : Option Node) :
    foldOptional compute node = node.map (fold compute) := by
  cases node <;> simp [foldOptional]

theorem foldTabs_eq_map (sections : List (Section TabExtras Node)) :
    foldTabs compute sections = sections.map (·.map (fold compute)) := by
  induction sections with
  | nil => simp [foldTabs]
  | cons part sections ih => cases part; simp [foldTabs, ih, foldList_eq_map, Section.map]

theorem foldSteps_eq_map (sections : List (Section StepExtras Node)) :
    foldSteps compute sections = sections.map (·.map (fold compute)) := by
  induction sections with
  | nil => simp [foldSteps]
  | cons part sections ih => cases part; simp [foldSteps, ih, foldList_eq_map, Section.map]

theorem foldPanels_eq_map (sections : List (Section PanelExtras Node)) :
    foldPanels compute sections = sections.map (·.map (fold compute)) := by
  induction sections with
  | nil => simp [foldPanels]
  | cons part sections ih => cases part; simp [foldPanels, ih, foldList_eq_map, Section.map]

theorem foldLayout_eq_map (layout : Layout Node) :
    foldLayout compute layout = layout.map (fold compute) := by
  cases layout <;>
    simp [foldLayout, Layout.map, foldTabs_eq_map, foldSteps_eq_map, foldPanels_eq_map,
      foldList_eq_map, foldOptional_eq_map]

theorem foldBody_eq_map (body : Body Node) : foldBody compute body = body.map (fold compute) := by
  cases body <;> simp [foldBody, Body.map, foldLayout_eq_map]

/-- A node is computed from itself and from the results of its children in their places. -/
theorem fold_eq (node : Node) :
    fold compute node = compute node (node.body.map (fold compute)) := by
  cases node; simp [fold, foldBody_eq_map]

end

/-- A node that is always visible and has no presentation. -/
def of? (id : String) (body : Body Node) : Outcome Node := do
  let id ← Outcome.ofBlank? (NonBlank.ofString? id)
  .ok ⟨id, none, none, none, none, body⟩

def withVisibleIf (node : Node) (condition : Condition) : Node :=
  { node with visibleIf := some condition }

def tag (node : Node) : String := node.body.tag

def bindingKey? (node : Node) : Option String := node.body.field?.map fun field => field.name.text

/-- The rules of a field; other nodes have none. -/
def rules (node : Node) : List Rule := (node.body.field?.map Field.validation).getD []

/-- The node and all nodes inside it, each before its children. -/
def walk (node : Node) : List Node :=
  node.fold fun node walks => node :: walks.children.flatten

/-- Identifiers along the walk. -/
def ids (node : Node) : List String := node.walk.map fun node => node.id.text

end Node

end Forms
