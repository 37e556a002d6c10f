import Forms.Decode.Record

/-!
# Visibility conditions

A condition compares the value of one field with an operand.  It may hold further conditions, its
rules, joined with it by a logic.  An operator that is not known is kept as it was written, so that
a document which uses it still loads.
-/

namespace Forms

inductive Operator where
  | equals
  | notEquals
  | contains
  | notContains
  | greaterThan
  | lessThan
  | isIn
  | notIn
  /-- Any other name. -/
  | unsupported (name : String)
deriving DecidableEq

namespace Operator

def name : Operator → String
  | .equals => "equals"
  | .notEquals => "notEquals"
  | .contains => "contains"
  | .notContains => "notContains"
  | .greaterThan => "greaterThan"
  | .lessThan => "lessThan"
  | .isIn => "in"
  | .notIn => "notIn"
  | .unsupported name => name

def ofName (name : String) : Operator :=
  match name with
  | "equals" => .equals
  | "notEquals" => .notEquals
  | "contains" => .contains
  | "notContains" => .notContains
  | "greaterThan" => .greaterThan
  | "lessThan" => .lessThan
  | "in" => .isIn
  | "notIn" => .notIn
  | name => .unsupported name

def isSupported : Operator → Bool
  | .unsupported _ => false
  | _ => true

end Operator

/-- How a condition is joined with its rules. -/
inductive Logic where
  | all
  | any
deriving DecidableEq

def Logic.name : Logic → String
  | .all => "and"
  | .any => "or"

inductive Condition where
  | mk (field : NonBlank) (operator : Operator) (operand : Json) (logic : Option Logic)
      (rules : List Condition)

namespace Condition

def field : Condition → NonBlank
  | mk field _ _ _ _ => field

def operator : Condition → Operator
  | mk _ operator _ _ _ => operator

def operand : Condition → Json
  | mk _ _ operand _ _ => operand

def logic : Condition → Option Logic
  | mk _ _ _ logic _ => logic

def rules : Condition → List Condition
  | mk _ _ _ _ rules => rules

/-- A condition without rules. -/
def leaf? (field : String) (operator : Operator) (operand : Json) : Outcome Condition := do
  let field ← Outcome.ofBlank? (NonBlank.ofString? field)
  .ok (mk field operator operand none [])

/-- The condition with rules of its own, at least one. -/
def withRules? (condition : Condition) (logic : Logic) (rules : List Condition) :
    Outcome Condition :=
  if rules.isEmpty then .error .emptyRuleGroup
  else .ok (mk condition.field condition.operator condition.operand (some logic) rules)

mutual
/-- The condition and all conditions inside it, each before its rules. -/
def visits : Condition → List Condition
  | mk field operator operand logic rules =>
    mk field operator operand logic rules :: visitsOf rules

def visitsOf : List Condition → List Condition
  | [] => []
  | rule :: rules => visits rule ++ visitsOf rules
end

/-- Rules are left out when there are none. -/
def rulesEntry : List Json → List (String × Json)
  | [] => []
  | rule :: rules => [("rules", .array (rule :: rules))]

mutual
/-- The written form, members in the order of the record. -/
def toJson : Condition → Json
  | mk field operator operand logic rules =>
    .object ([("field", .string field.text), ("operator", .string operator.name),
        ("value", operand)]
      ++ optionalEntry "logic" (fun logic => .string (Logic.name logic)) logic
      ++ rulesEntry (toJsonOf rules))

def toJsonOf : List Condition → List Json
  | [] => []
  | rule :: rules => toJson rule :: toJsonOf rules
end

def logics : List (String × Logic) := [("and", .all), ("or", .any)]

/-- Reads a condition of at most this many nested arrays and objects.  A value without any is no
condition. -/
def decodeWithin : (depth : Nat) → Decoder Condition
  | 0, _, value => .error (Decode.mismatch value (.record "Condition"))
  | depth + 1, origin, value =>
    Decode.record "Condition"
      (Condition.mk <$> Fields.required "field" Decode.nonBlank
        <*> (Operator.ofName <$> Fields.required "operator" Decode.string)
        <*> Fields.defaulting "value" Decode.any .null
        <*> Fields.omissible "logic" (Decode.variant logics)
        <*> Fields.defaulting "rules" (Decode.list (decodeWithin depth)) [])
      origin value

def decode : Decoder Condition := fun origin value => decodeWithin value.depth origin value

end Condition

end Forms
