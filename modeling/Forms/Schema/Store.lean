import Forms.Disk
import Forms.Schema.Written

/-!
# Schemas kept in files

A store is a directory with one file per schema, named for the schema.  The directory is made when
the first schema is saved; before that the store is empty.
-/

namespace Forms

structure SchemaStore where
  /-- The path of the directory. -/
  root : String
deriving DecidableEq

namespace SchemaStore

def extension : String := "json"

/-- The name a schema is kept under, without blanks at its ends.  It must be a plain file name that
is not hidden. -/
def fileStem (name : String) : Outcome String :=
  let name := Unicode.trim name
  if name.isEmpty then .error .emptySchemaName
  else if name.startsWith "." || name.toList.any (fun c => c == '/' || c == '\\') then
    .error (.unsafeSchemaName name)
  else .ok name

/-- The path of the file that keeps a schema. -/
def path (store : SchemaStore) (stem : String) : String :=
  Path.join store.root s!"{stem}.{extension}"

/-- The schema that a file name keeps; none when it keeps no schema. -/
def nameOfFile? (fileName : String) : Option String :=
  if Path.extension? fileName = some extension then Path.stem? fileName else none

/-- What a failure to read the file of a schema means. -/
def readFailure (name path : String) : SystemError → Failure
  | .notFound => .schemaNotFound name
  | error => .schemaNotRead path error

variable {m : Type → Type} [Monad m]

def load (disk : Disk m) (store : SchemaStore) (name : String) : m (Outcome Schema) := do
  match fileStem name with
  | .error failure => return .error failure
  | .ok stem =>
    let path := store.path stem
    match ← disk.readText path with
    | .error error => return .error (readFailure name path error)
    | .ok text => return Schema.ofText text

def save (disk : Disk m) (store : SchemaStore) (name : String) (schema : Schema) :
    m (Outcome Unit) := do
  match fileStem name with
  | .error failure => return .error failure
  | .ok stem =>
    match ← disk.createDirectory store.root with
    | .error error => return .error (.directoryNotCreated store.root error)
    | .ok _ =>
      let path := store.path stem
      match ← disk.writeText path schema.text with
      | .error error => return .error (.schemaNotWritten path error)
      | .ok _ => return .ok ()

/-- The names of all schemas in ascending order; none while there is no directory. -/
def list (disk : Disk m) (store : SchemaStore) : m (Outcome (List String)) := do
  match ← disk.entryNames store.root with
  | .error .notFound => return .ok []
  | .error error => return .error (.directoryNotListed store.root error)
  | .ok names => return .ok ((names.filterMap nameOfFile?).mergeSort (· ≤ ·))

end SchemaStore

end Forms
