import Forms.Condition.Basic
import Forms.Occurrence
import Forms.Readings

/-!
# Evaluating conditions

A condition is evaluated against the values of a document, and always has an answer.  Its own
comparison comes first; its rules are joined with that by its logic, and count for nothing without
one.
-/

namespace Forms

/-- The values of a document by binding key. -/
abbrev Values := Members

/-- The value of a key; a key that is not there has the value null. -/
def Members.valueOf (values : Values) (key : String) : Json := (values.get? key).getD .null

namespace Json

/-- Whether an array has an equal item, or the text of another value holds the text of
the operand. -/
def holds (value operand : Json) : Bool :=
  match value with
  | .array items => items.any (·.agrees operand)
  | value => occursIn operand.readingChars value.readingChars

/-- Whether the operand is an array in which some item, or no item, equals the value. -/
def isAmong (value operand : Json) (expected : Bool) : Bool :=
  match operand with
  | .array items => items.any (·.agrees value) == expected
  | _ => false

end Json

namespace Operator

/-- Compares the value of a field with the operand. -/
def compares (operator : Operator) (value operand : Json) : Bool :=
  match operator with
  | .equals => value.agrees operand
  | .notEquals => !value.agrees operand
  | .contains => value.holds operand
  | .notContains => !value.holds operand
  | .greaterThan => operand.quantity.lt value.quantity
  | .lessThan => value.quantity.lt operand.quantity
  | .isIn => value.isAmong operand true
  | .notIn => value.isAmong operand false
  | .unsupported _ => false

end Operator

namespace Condition

/-- The comparison of the condition itself, its rules set aside. -/
def comparesAlone (condition : Condition) (values : Values) : Bool :=
  condition.operator.compares (values.valueOf condition.field.text) condition.operand

mutual
def evaluate (values : Values) : Condition → Bool
  | mk field operator operand logic rules =>
    let base := operator.compares (values.valueOf field.text) operand
    match rules, logic with
    | [], _ => base
    | _ :: _, none => base
    | rules, some .all => base && allHold values rules
    | rules, some .any => base || someHolds values rules

def allHold (values : Values) : List Condition → Bool
  | [] => true
  | rule :: rules => evaluate values rule && allHold values rules

def someHolds (values : Values) : List Condition → Bool
  | [] => false
  | rule :: rules => evaluate values rule || someHolds values rules
end

/-- Whether what the condition guards is visible; without a condition it always is. -/
def isVisible (values : Values) : Option Condition → Bool
  | none => true
  | some condition => condition.evaluate values

end Condition

end Forms
