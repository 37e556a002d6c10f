import Forms.Schema.Basic

/-!
# Issues of a schema

Some mistakes do not keep a schema from being read and rendered.  They are reported in the order of
the walk, and for each node in the order of the kinds below.  Along the walk it is counted how often
each identifier and each binding key has been met.
-/

namespace Forms

inductive Issue where
  | duplicateNodeId (id : String)
  | duplicateBindingKey (key id : String)
  | unknownTag (id tag : String)
  | unsupportedOperator (id operator : String)
  | rulesWithoutLogic (id field : String)
  | invalidPattern (id pattern : String)
deriving DecidableEq

namespace Issue

def kind : Issue → String
  | .duplicateNodeId .. => "DuplicateNodeId"
  | .duplicateBindingKey .. => "DuplicateBindingKey"
  | .unknownTag .. => "UnknownTag"
  | .unsupportedOperator .. => "UnsupportedOperator"
  | .rulesWithoutLogic .. => "RulesWithoutLogic"
  | .invalidPattern .. => "InvalidPattern"

/-- The issue in words; why a pattern does not compile is left open. -/
def message : Issue → String
  | .duplicateNodeId id => s!"duplicate node id '{id}'"
  | .duplicateBindingKey key id =>
    s!"binding key '{key}' on node '{id}' is already bound by another node"
  | .unknownTag id tag => s!"node '{id}' has unknown tag '{tag}'"
  | .unsupportedOperator id operator =>
    s!"node '{id}' uses unsupported condition operator '{operator}'"
  | .rulesWithoutLogic id field =>
    s!"condition on '{field}' in node '{id}' has nested rules but no logic"
  | .invalidPattern id pattern => s!"node '{id}' has invalid pattern '{pattern}': "

end Issue

/-- Issues of a condition by itself. -/
def Condition.ownIssues (id : String) (condition : Condition) : List Issue :=
  (if condition.operator.isSupported then []
    else [.unsupportedOperator id condition.operator.name])
  ++ (if condition.rules.isEmpty ∨ condition.logic.isSome then []
    else [.rulesWithoutLogic id condition.field.text])

/-- How often each text has been met. -/
abbrev Tally := Entries Nat

namespace Tally

def times (tally : Tally) (text : String) : Nat := (tally.get? text).getD 0

def add (text : String) (tally : Tally) : Tally := tally.insert text (tally.times text + 1)

end Tally

/-- The identifiers and the binding keys met along a walk. -/
structure Census where
  ids : Tally
  keys : Tally

namespace Census

def empty : Census := ⟨[], []⟩

def add (census : Census) (node : Node) : Census :=
  ⟨census.ids.add node.id.text,
    match node.bindingKey? with
    | some key => census.keys.add key
    | none => census.keys⟩

end Census

namespace Node

/-- The second node of an identifier is reported, and no later one. -/
def idIssues (ids : Tally) (node : Node) : List Issue :=
  if ids.times node.id.text = 2 then [.duplicateNodeId node.id.text] else []

/-- Every node after the first that binds a key is reported. -/
def bindingIssues (keys : Tally) (node : Node) : List Issue :=
  match node.bindingKey? with
  | some key => if 1 < keys.times key then [.duplicateBindingKey key node.id.text] else []
  | none => []

def tagIssues (node : Node) : List Issue :=
  match node.body with
  | .unknown tag _ => [.unknownTag node.id.text tag]
  | _ => []

def conditionIssues (node : Node) : List Issue :=
  match node.visibleIf with
  | some condition => condition.visits.flatMap (Condition.ownIssues node.id.text)
  | none => []

def patternIssues (node : Node) : List Issue :=
  node.rules.filterMap fun rule => rule.invalidPattern?.map (Issue.invalidPattern node.id.text)

/-- Issues of a node that has just been counted. -/
def issues (census : Census) (node : Node) : List Issue :=
  node.idIssues census.ids ++ node.bindingIssues census.keys ++ node.tagIssues
    ++ node.conditionIssues ++ node.patternIssues

end Node

/-- Issues of nodes in order, given the census of the nodes before them. -/
def issuesAlong (census : Census) : List Node → List Issue
  | [] => []
  | node :: nodes => node.issues (census.add node) ++ issuesAlong (census.add node) nodes

/-- All issues of a schema. -/
def Schema.issues (schema : Schema) : List Issue := issuesAlong .empty schema.walk

end Forms
