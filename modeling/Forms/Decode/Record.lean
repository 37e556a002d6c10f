import Forms.Decode.Basic

/-!
# Reading records

A record is read from an object by name, or from an array by position.  Both readings come from one
description of its fields.

Read by name, the entries count in the order in which they stand: the first one that is faulty, or
that repeats a field, is the error.  Only when all entries are sound does a missing field matter,
and the first one in the order of the record is reported.  `Ranked` results carry the place of their
fault, and putting two of them together keeps the earlier one, so the fields can be read in any
order.
-/

namespace Forms

/-- A result, or a fault with its place. -/
abbrev Ranked (α : Type) := Except (Nat × ReadError) α

namespace Ranked

variable {α β : Type}

/-- Both results, or the earlier fault; of two faults at one place the first one. -/
def pair (first : Ranked α) (second : Ranked β) : Ranked (α × β) :=
  match first, second with
  | .ok a, .ok b => .ok (a, b)
  | .ok _, .error fault => .error fault
  | .error fault, .ok _ => .error fault
  | .error (place, error), .error (place', error') =>
    if place' < place then .error (place', error') else .error (place, error)

def result (ranked : Ranked α) : Except ReadError α := ranked.mapError Prod.snd

end Ranked

/-- The fields of a record: their number, and how they are read by name and by position.  Reading by
position fails with the position of a field that is missing, or with a fault. -/
structure Fields (α : Type) where
  count : Nat
  byName : Origin → List (String × Json) → Ranked α
  byPosition : Origin → (position : Nat) → List Json → Except (Nat ⊕ ReadError) (α × List Json)

namespace Fields

variable {α β : Type}

def map (f : α → β) (fields : Fields α) : Fields β where
  count := fields.count
  byName origin entries := (fields.byName origin entries).map f
  byPosition origin position items :=
    (fields.byPosition origin position items).map fun (value, rest) => (f value, rest)

def pure (value : α) : Fields α where
  count := 0
  byName _ _ := .ok value
  byPosition _ _ items := .ok (value, items)

def pair (first : Fields α) (second : Fields β) : Fields (α × β) where
  count := first.count + second.count
  byName origin entries := (first.byName origin entries).pair (second.byName origin entries)
  byPosition origin position items := do
    let (a, items) ← first.byPosition origin position items
    let (b, items) ← second.byPosition origin (position + first.count) items
    .ok ((a, b), items)

instance : Functor Fields where
  map := Fields.map

instance : Applicative Fields where
  pure := Fields.pure
  seq f x := (Fields.pair f (x ())).map fun (f, a) => f a

/-- Entries of a field, with their places. -/
def occurrences (keys : List String) (entries : List (String × Json)) : List (Nat × Json) :=
  (entries.zipIdx.filter fun (entry, _) => keys.contains entry.1).map fun (entry, place) =>
    (place, entry.2)

/-- A field.  `absent` is what an object without it gives, and `defaulted` what an array that ends
before it gives; a field that is needed has neither. -/
def field (keys : List String) (decoder : Decoder α) (absent defaulted : Option α) : Fields α where
  count := 1
  byName origin entries :=
    let name := keys.headD ""
    match occurrences keys entries with
    | [] =>
      match absent with
      | some value => .ok value
      | none => .error (entries.length, .missingField name)
    | (place, value) :: others =>
      match decoder origin value, others with
      | .error error, _ => .error (place, error)
      | .ok _, (again, _) :: _ => .error (again, .duplicateField name)
      | .ok value, [] => .ok value
  byPosition origin position items :=
    match items with
    | [] =>
      match defaulted with
      | some value => .ok (value, [])
      | none => .error (.inl position)
    | item :: items =>
      match decoder origin item with
      | .error error => .error (.inr error)
      | .ok value => .ok (value, items)

/-- A field that must be there. -/
def required (key : String) (decoder : Decoder α) : Fields α := field [key] decoder none none

/-- A field that may be missing from an object, or null, but has its place in an array. -/
def optional (key : String) (decoder : Decoder α) : Fields (Option α) :=
  field [key] (Decode.optional decoder) (some none) none

/-- A field that may be missing or null in both. -/
def omissible (key : String) (decoder : Decoder α) : Fields (Option α) :=
  field [key] (Decode.optional decoder) (some none) (some none)

/-- A field with a default; it may be missing, but not null. -/
def defaulting (key : String) (decoder : Decoder α) (value : α) : Fields α :=
  field [key] decoder (some value) (some value)

/-- A field of two names with a default. -/
def aliased (keys : List String) (decoder : Decoder α) (value : α) : Fields α :=
  field keys decoder (some value) (some value)

end Fields

namespace Decode

variable {α : Type}

/-- Items that are left when an array has been read by position. -/
def surplus (origin : Origin) (total count : Nat) : ReadError :=
  match origin with
  | .text => .trailingItems
  | .value => .invalidLength total .fewer
  | .collected => .invalidLength total (.exactly count)

/-- A record, from an object or from an array. -/
def record (name : String) (fields : Fields α) : Decoder α := fun origin value =>
  match value with
  | .object entries => (fields.byName origin entries).result
  | .array items =>
    match fields.byPosition origin 0 items with
    | .error (.inl position) => .error (.invalidLength position (.members name fields.count))
    | .error (.inr error) => .error error
    | .ok (value, []) => .ok value
    | .ok _ => .error (surplus origin items.length fields.count)
  | other => .error (mismatch other (.record name))

/-- A record that is read from an object alone, with the entries that are none of its own fields. -/
def openRecord (name : String) (keys : List String) (fields : Fields α) :
    Decoder (α × List (String × Json)) := fun origin value =>
  match value with
  | .object entries => do
    let record ← (fields.byName origin entries).result
    .ok (record, entries.filter fun entry => !keys.contains entry.1)
  | other => .error (mismatch other (.record name))

end Decode

end Forms
