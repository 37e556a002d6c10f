import Forms.Failure
import Forms.NonBlank

/-!
# Reading typed values from JSON

A decoder turns a JSON value into a value of some type, or says why it cannot.  Three sources are
told apart, because they answer a few malformed values differently: text that is read on the fly, a
value that is at hand, and a member that was set aside until the record around it had been read.
-/

namespace Forms

inductive Origin where
  | text
  | value
  | collected
deriving DecidableEq

abbrev Decoder (α : Type) := Origin → Json → Except ReadError α

namespace Decode

variable {α : Type}

def mismatch (found : Json) (expected : Expected) : ReadError :=
  .invalidType (Found.ofJson found) expected

def string : Decoder String := fun _ value =>
  match value with
  | .string content => .ok content
  | other => .error (mismatch other .text)

def boolean : Decoder Bool := fun _ value =>
  match value with
  | .bool flag => .ok flag
  | other => .error (mismatch other .boolean)

/-- An integer below `bound`; a double is refused even when it has no fraction. -/
def natural (bound : Nat) (expected : Expected) : Decoder Nat := fun _ value =>
  match value with
  | .number (.integer value inRange) =>
    if 0 ≤ value ∧ value < bound then .ok value.toNat
    else .error (.invalidValue (Found.ofJson (.number (.integer value inRange))) expected)
  | other => .error (mismatch other expected)

def count32 : Decoder UInt32 := fun origin value =>
  (natural UInt32.size .count32 origin value).map UInt32.ofNat

def count64 : Decoder UInt64 := fun origin value =>
  (natural UInt64.size .count64 origin value).map UInt64.ofNat

/-- A position in a sequence. -/
def position : Decoder Nat := natural UInt64.size .position

/-- A double; an integer is taken as the nearest one. -/
def double : Decoder Double := fun _ value =>
  match value with
  | .number number => .ok number.toDouble
  | other => .error (mismatch other .double)

/-- Any value, its objects sorted. -/
def any : Decoder Json := fun _ value => .ok value.canonical

/-- A text that is not blank. -/
def nonBlank : Decoder NonBlank := fun origin value => do
  let text ← string origin value
  match NonBlank.ofString? text with
  | some name => .ok name
  | none => .error (.refused .blankText)

/-- Null stands for nothing. -/
def optional (decoder : Decoder α) : Decoder (Option α) := fun origin value =>
  match value with
  | .null => .ok none
  | value => (decoder origin value).map some

def list (decoder : Decoder α) : Decoder (List α) := fun origin value =>
  match value with
  | .array items => items.mapM (decoder origin)
  | other => .error (mismatch other .sequence)

/-- An object of any members. -/
def members : Decoder Members := fun _ value =>
  match value with
  | .object members => .ok (Entries.ofWrites (Json.canonicalMembers members))
  | other => .error (mismatch other .map)

/-- An object whose members are all of one type, by ascending key. -/
def map (decoder : Decoder α) : Decoder (Entries α) := fun origin value =>
  match value with
  | .object members => do
    let entries ← members.mapM fun (key, value) => do
      let value ← decoder origin value
      .ok (key, value)
    .ok (Entries.ofWrites entries)
  | other => .error (mismatch other .map)

/-- The alternative of a name. -/
def alternative (known : List (String × α)) (name : String) : Except ReadError α :=
  match known.lookup name with
  | some value => .ok value
  | none => .error (.unknownVariant name (known.map Prod.fst))

/-- What the single entry of an alternative written as an object may hold. -/
def payload (origin : Origin) (value : Json) : Except ReadError Unit :=
  match origin, value with
  | _, .null => .ok ()
  | .collected, .object [] => .ok ()
  | _, other => .error (mismatch other .nothing)

/-- One of several named alternatives, as a string, or as an object whose single key is the name. -/
def variant (known : List (String × α)) : Decoder α := fun origin value =>
  match origin, value with
  | _, .string name => alternative known name
  | .text, .object ((name, held) :: others) => do
    let result ← alternative known name
    payload .text held
    if others.isEmpty then .ok result else .error .valueExpected
  | .text, _ => .error .valueExpected
  | origin, .object [(name, held)] => do
    let result ← alternative known name
    payload origin held
    .ok result
  | _, .object _ => .error (.invalidValue .map .singleEntry)
  | _, other => .error (mismatch other .variant)

end Decode

end Forms
