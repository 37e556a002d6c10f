import Forms.Rule.Basic

/-!
# Validating values

The rules of a field are checked in order, and the message of the first one that the value fails is
the error of the field.  Most rules leave alone a value that is not filled in; only a required rule
asks for one.  A pattern that does not compile, and a custom rule without a predicate, accept
everything.
-/

namespace Forms

/-- Rules by binding key. -/
abbrev FieldRules := Entries (List Rule)

/-- Messages by binding key. -/
abbrev Errors := Entries String

/-- One at sign with something before it, no blanks, and a point inside the part behind it. -/
def emailPattern : Option Pattern := Pattern.compile? "^[^\\s@]+@[^\\s@]+\\.[^\\s@]+$"

/-- The size that bounds apply to: characters of a text, or the number itself.  Other values have
none. -/
def Json.measure? : Json → Option Quantity
  | .string content => some (.ofNat content.length)
  | .number value => some (.finite value.toDouble)
  | _ => none

namespace Rule

/-- The bound of a rule; a missing one bounds nothing. -/
def bound (rule : Rule) : Quantity :=
  match rule.operand with
  | some operand => operand.quantity
  | none => .undefined

/-- Whether a text matches the pattern of the rule. -/
def acceptsText (rule : Rule) (text : String) : Bool :=
  match rule.patternText with
  | none => true
  | some pattern =>
    match Pattern.compile? pattern with
    | none => true
    | some pattern => pattern.isMatch text

def accepts (rule : Rule) (value : Json) : Bool :=
  match rule.kind with
  | .required =>
    match value with
    | .null => false
    | .string content => !Unicode.allBlank content
    | _ => true
  | .email =>
    !value.isPresent
      || (match emailPattern with
        | some pattern => pattern.isMatch value.readingText
        | none => true)
  | .min =>
    match value.measure? with
    | some measure => !measure.lt rule.bound
    | none => true
  | .max =>
    match value.measure? with
    | some measure => !rule.bound.lt measure
    | none => true
  | .pattern => !value.isPresent || rule.acceptsText value.readingText
  | .custom =>
    match rule.predicate with
    | some predicate => predicate value
    | none => true

end Rule

/-- The message of the first rule that a value fails. -/
def validateValue (value : Json) (rules : List Rule) : Option String :=
  (rules.find? fun rule => !rule.accepts value).map fun rule => rule.message.text

/-- The errors of all keys that have rules. -/
def validateDocument (values : Values) (rules : FieldRules) : Errors :=
  rules.filterMap fun (key, rules) =>
    (validateValue (values.valueOf key) rules).map fun message => (key, message)

end Forms
