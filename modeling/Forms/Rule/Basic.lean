import Forms.Condition.Evaluation
import Forms.Decode.Record
import Forms.Pattern

/-!
# Validation rules

A rule constrains the value of a field and carries the message that is shown when the value
fails.  The predicate of a custom rule lives in the running program only: it is neither written nor
read.
-/

namespace Forms

inductive RuleKind where
  | required
  | email
  | min
  | max
  | pattern
  | custom
deriving DecidableEq

namespace RuleKind

def name : RuleKind → String
  | .required => "required"
  | .email => "email"
  | .min => "min"
  | .max => "max"
  | .pattern => "pattern"
  | .custom => "custom"

def all : List RuleKind := [.required, .email, .min, .max, .pattern, .custom]

def decode : Decoder RuleKind := Decode.variant (all.map fun kind => (kind.name, kind))

end RuleKind

structure Rule where
  kind : RuleKind
  /-- A bound, or the text of a pattern. -/
  operand : Option Json
  message : NonBlank
  predicate : Option (Json → Bool)

namespace Rule

def of? (kind : RuleKind) (operand : Option Json) (message : String) : Outcome Rule := do
  let message ← Outcome.ofBlank? (NonBlank.ofString? message)
  .ok ⟨kind, operand, message, none⟩

def required? (message : Option String) : Outcome Rule :=
  of? .required none (message.getD "This field is required")

def email? (message : Option String) : Outcome Rule :=
  of? .email none (message.getD "Please enter a valid email address")

def minLength? (length : UInt64) (message : Option String) : Outcome Rule :=
  of? .min (some (.number (.ofUInt64 length)))
    (message.getD s!"Must be at least {length} characters long")

def maxLength? (length : UInt64) (message : Option String) : Outcome Rule :=
  of? .max (some (.number (.ofUInt64 length)))
    (message.getD s!"Must not exceed {length} characters")

def pattern? (pattern message : String) : Outcome Rule :=
  of? .pattern (some (.string pattern)) message

def custom? (predicate : Json → Bool) (message : String) : Outcome Rule := do
  let rule ← of? .custom none message
  .ok { rule with predicate := some predicate }

/-- The text of the pattern of a pattern rule. -/
def patternText (rule : Rule) : Option String :=
  match rule.kind, rule.operand with
  | .pattern, some (.string text) => some text
  | _, _ => none

/-- The pattern text of a rule whose text does not compile. -/
def invalidPattern? (rule : Rule) : Option String :=
  match rule.patternText with
  | some text => if (Pattern.compile? text).isSome then none else some text
  | none => none

def toJson (rule : Rule) : Json :=
  .object ([("type", .string rule.kind.name)] ++ optionalEntry "value" id rule.operand
    ++ [("message", .string rule.message.text)])

def decode : Decoder Rule :=
  Decode.record "ValidationRule"
    ((fun kind operand message => Rule.mk kind operand message none)
      <$> Fields.required "type" RuleKind.decode
      <*> Fields.omissible "value" Decode.any
      <*> Fields.required "message" Decode.nonBlank)

/-- What is written of a rule; two rules that are written alike differ at most in their
predicates. -/
def written (rule : Rule) : RuleKind × Option Json × String :=
  (rule.kind, rule.operand, rule.message.text)

end Rule

end Forms
