import Forms.Json.Printer
import Forms.Quoted

/-!
# What can go wrong

Failures are told apart by their cause.  A value that does not have the shape of a record is a
`ReadError`; everything else, from an edit that repeats an identifier to a file that is missing, is
a `Failure`.  The two refer to each other: a value of the right shape may still be refused by the
thing it describes, and a text that cannot be read is a failure of whoever asked for it.  All
wording is here.
-/

namespace Forms

/-- What stands where something else was expected. -/
inductive Found where
  | null
  | boolean (flag : Bool)
  | integer (value : Int)
  | double (value : Double)
  | text (content : String)
  | sequence
  | map

namespace Found

def ofJson : Json → Found
  | .null => .null
  | .bool flag => .boolean flag
  | .number (.integer value _) => .integer value
  | .number (.double value) => .double value
  | .string content => .text content
  | .array _ => .sequence
  | .object _ => .map

def words : Found → String
  | .null => "null"
  | .boolean flag => s!"boolean `{flag}`"
  | .integer value => s!"integer `{value}`"
  | .double value =>
    let digits := String.ofList (value.text documentFormat)
    s!"floating point `{digits}`"
  | .text content => "string " ++ quotedText content
  | .sequence => "sequence"
  | .map => "map"

end Found

/-- What a reader asked for. -/
inductive Expected where
  | text
  | boolean
  | sequence
  | map
  | count32
  | count64
  | position
  | double
  | variant
  | singleEntry
  | nothing
  | record (name : String)

def Expected.words : Expected → String
  | .text => "a string"
  | .boolean => "a boolean"
  | .sequence => "a sequence"
  | .map => "a map"
  | .count32 => "u32"
  | .count64 => "u64"
  | .position => "usize"
  | .double => "f64"
  | .variant => "string or map"
  | .singleEntry => "map with a single key"
  | .nothing => "unit"
  | .record name => s!"struct {name}"

/-- What the number of items of an array has to be. -/
inductive ExpectedLength where
  /-- All members of a record that have no default. -/
  | members (name : String) (count : Nat)
  | fewer
  | exactly (count : Nat)

def elementCount (count : Nat) : String := if count = 1 then "1 element" else s!"{count} elements"

def ExpectedLength.words : ExpectedLength → String
  | .members name count => s!"struct {name} with {elementCount count}"
  | .fewer => "fewer elements in array"
  | .exactly count => s!"{elementCount count} in sequence"

/-- Why the operating system refused an operation on a file. -/
inductive SystemError where
  | notFound
  | exists
  | notDirectory
  | isDirectory
  | nameTooLong
  | nulInName
  /-- Any other reason, in the words of the system. -/
  | other (words : String)
deriving DecidableEq

def SystemError.words : SystemError → String
  | .notFound => "No such file or directory (os error 2)"
  | .exists => "File exists (os error 17)"
  | .notDirectory => "Not a directory (os error 20)"
  | .isDirectory => "Is a directory (os error 21)"
  | .nameTooLong => "File name too long (os error 36)"
  | .nulInName => "file name contained an unexpected NUL byte"
  | .other words => words

mutual
/-- Why a value is not the record that was asked for. -/
inductive ReadError where
  | invalidType (found : Found) (expected : Expected)
  | invalidValue (found : Found) (expected : Expected)
  | invalidLength (length : Nat) (expected : ExpectedLength)
  | missingField (name : String)
  | duplicateField (name : String)
  | unknownVariant (name : String) (known : List String)
  | noVariant (name : String)
  | trailingItems
  | valueExpected
  /-- The value has the right shape, but no such thing can be made of it. -/
  | refused (cause : Failure)

inductive Failure where
  | blankText
  | unknownTextInput (tag : String)
  | emptyRuleGroup
  | missingTag (id : String)
  | malformedNode (tag : String) (cause : ReadError)
  | unreadable (cause : ReadError)
  /-- The text is no JSON at all; what is wrong with it is not told. -/
  | malformedText
  | duplicateId (id : String)
  | containerNotFound (id : String)
  | regionNotFound (region id : String)
  | nodeNotFound (id : String)
  | singleNodeRegion (region id : String)
  | fixedId (id : String)
  | requiredRegion (id region : String)
  | rowsNotFound (url : String)
  | emptySchemaName
  | unsafeSchemaName (name : String)
  | schemaNotFound (name : String)
  | schemaNotRead (path : String) (cause : SystemError)
  | schemaNotWritten (path : String) (cause : SystemError)
  | directoryNotCreated (path : String) (cause : SystemError)
  | directoryNotListed (path : String) (cause : SystemError)
  | fileNotRead (path : String) (cause : SystemError)
  | schemaPathRequired
  | submitNotBoolean (value : String)
  | notSchemaFile (path : String)
  | unnamedSchemaFile (path : String)
  /-- A failure inside something the host supplied, in its own words. -/
  | reported (message : String)
end

inductive FailureKind where
  | validation
  | notFound
  | conflict
  | serialization
  | internal
deriving DecidableEq

/-- The name of the kind. -/
def FailureKind.name : FailureKind → String
  | .validation => "Validation"
  | .notFound => "NotFound"
  | .conflict => "Conflict"
  | .serialization => "Serialization"
  | .internal => "Internal"

/-- What a message of the kind begins with. -/
def FailureKind.lead : FailureKind → String
  | .validation => "validation error: "
  | .notFound => "not found: "
  | .conflict => "conflict: "
  | .serialization => "serialization error: "
  | .internal => "internal error: "

def Failure.kind : Failure → FailureKind
  | .blankText | .unknownTextInput _ | .emptyRuleGroup | .missingTag _ | .singleNodeRegion _ _
  | .fixedId _ | .requiredRegion _ _ | .emptySchemaName | .unsafeSchemaName _ | .fileNotRead _ _
  | .schemaPathRequired | .submitNotBoolean _ | .notSchemaFile _ | .unnamedSchemaFile _ =>
    .validation
  | .containerNotFound _ | .regionNotFound _ _ | .nodeNotFound _ | .rowsNotFound _
  | .schemaNotFound _ => .notFound
  | .duplicateId _ => .conflict
  | .malformedNode _ _ | .unreadable _ | .malformedText => .serialization
  | .schemaNotRead _ _ | .schemaNotWritten _ _ | .directoryNotCreated _ _ | .directoryNotListed _ _
  | .reported _ => .internal

/-- Names in a message, as alternatives to choose from. -/
def namedAlternatives (names : List String) : String :=
  let quoted := names.map fun name => s!"`{name}`"
  match quoted with
  | [first, second] => s!"{first} or {second}"
  | quoted => "one of " ++ String.intercalate ", " quoted

mutual
def ReadError.message : ReadError → String
  | .invalidType found expected => s!"invalid type: {found.words}, expected {expected.words}"
  | .invalidValue found expected => s!"invalid value: {found.words}, expected {expected.words}"
  | .invalidLength length expected => s!"invalid length {length}, expected {expected.words}"
  | .missingField name => s!"missing field `{name}`"
  | .duplicateField name => s!"duplicate field `{name}`"
  | .unknownVariant name known => s!"unknown variant `{name}`, expected {namedAlternatives known}"
  | .noVariant name => s!"data did not match any variant of untagged enum {name}"
  | .trailingItems => "trailing characters"
  | .valueExpected => "expected value"
  | .refused cause => cause.kind.lead ++ cause.detail

/-- The message without the name of its kind. -/
def Failure.detail : Failure → String
  | .blankText => "value must not be empty or whitespace"
  | .unknownTextInput tag => s!"unknown text input type '{tag}'"
  | .emptyRuleGroup => "nested condition groups must include at least one rule"
  | .missingTag id => s!"node '{id}' is missing a tag"
  | .malformedNode tag cause => s!"invalid '{tag}' node: " ++ cause.message
  | .unreadable cause => cause.message
  | .malformedText => "malformed text"
  | .duplicateId id => s!"node id '{id}' already exists"
  | .containerNotFound id => s!"container node '{id}' not found"
  | .regionNotFound region id => s!"region '{region}' not found on node '{id}'"
  | .nodeNotFound id => s!"node '{id}' not found"
  | .singleNodeRegion region id => s!"region '{region}' on node '{id}' holds a single node"
  | .fixedId id => s!"node id '{id}' cannot be changed"
  | .requiredRegion id region =>
    s!"node '{id}' fills required region '{region}' and cannot be removed"
  | .rowsNotFound url => s!"no option rows registered for '{url}'"
  | .emptySchemaName => "schema name must not be empty"
  | .unsafeSchemaName name =>
    s!"schema name '{name}' must not contain path separators or start with a dot"
  | .schemaNotFound name => s!"schema '{name}' not found"
  | .schemaNotRead path cause => s!"failed to read schema '{path}': {cause.words}"
  | .schemaNotWritten path cause => s!"failed to write schema '{path}': {cause.words}"
  | .directoryNotCreated path cause => s!"failed to create schema directory '{path}': {cause.words}"
  | .directoryNotListed path cause => s!"failed to list schemas in '{path}': {cause.words}"
  | .fileNotRead path cause => s!"failed to read '{path}': {cause.words}"
  | .schemaPathRequired => "FORMWEAVE_SCHEMA_PATH is required"
  | .submitNotBoolean value => s!"FORMWEAVE_SUBMIT must be 'true' or 'false', got '{value}'"
  | .notSchemaFile path => s!"schema file '{path}' must have a .json extension"
  | .unnamedSchemaFile path => s!"schema file '{path}' has no usable name"
  | .reported message => message
end

def Failure.message (failure : Failure) : String := failure.kind.lead ++ failure.detail

/-- Results of what may fail. -/
abbrev Outcome (α : Type) := Except Failure α

/-- A name or message that must not be blank. -/
def Outcome.ofBlank? {α : Type} (value : Option α) : Outcome α :=
  match value with
  | some value => .ok value
  | none => .error .blankText

end Forms
