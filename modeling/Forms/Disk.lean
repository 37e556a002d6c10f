import Forms.Entries
import Forms.Failure
import Forms.Path

/-!
# Files and directories

What a program asks of the disk is a record of operations over a monad, so that the same program
runs on the files of the machine and on a tree of files in memory.
-/

namespace Forms

/-- The operations that a schema store and the command line need. -/
structure Disk (m : Type → Type) where
  readText : String → m (Except SystemError String)
  writeText : String → String → m (Except SystemError Unit)
  /-- Makes a directory and those above it, as far as they are missing. -/
  createDirectory : String → m (Except SystemError Unit)
  entryNames : String → m (Except SystemError (List String))

inductive FileTree where
  | file (text : String)
  | directory (entries : List (String × FileTree))

namespace FileTree

def empty : FileTree := .directory []

/-- Whether a name is too long for a directory. -/
def maxNameBytes : Nat := 255

/-- Looks for a name in a directory. -/
def child (name : String) : FileTree → Except SystemError (Option FileTree)
  | .file _ => .error .notDirectory
  | .directory entries =>
    if maxNameBytes < name.utf8ByteSize then .error .nameTooLong
    else .ok (Entries.get? entries name)

/-- What is at a path. -/
def at? : List String → FileTree → Except SystemError FileTree
  | [], tree => .ok tree
  | name :: names, tree =>
    match tree.child name with
    | .error error => .error error
    | .ok none => .error .notFound
    | .ok (some inner) => at? names inner

/-- Puts an entry into a directory. -/
def put (tree : FileTree) (name : String) (inner : FileTree) : FileTree :=
  match tree with
  | .file text => .file text
  | .directory entries => .directory (Entries.insert name inner entries)

/-- Writes the text of a file; the directory it is in must be there. -/
def write (text : String) : List String → FileTree → Except SystemError FileTree
  | [], .file _ => .ok (.file text)
  | [], .directory _ => .error .isDirectory
  | name :: names, tree =>
    match tree.child name with
    | .error error => .error error
    | .ok (some inner) => (write text names inner).map fun inner => tree.put name inner
    | .ok none => if names.isEmpty then .ok (tree.put name (.file text)) else .error .notFound

/-- Makes a directory and those above it. -/
def makeDirectory : List String → FileTree → Except SystemError FileTree
  | [], .file _ => .error .exists
  | [], .directory entries => .ok (.directory entries)
  | name :: names, tree =>
    match tree.child name with
    | .error error => .error error
    | .ok inner => (makeDirectory names (inner.getD empty)).map fun inner => tree.put name inner

/-- One part of a path, followed from the directory at `place`. -/
def follow (tree : FileTree) (place : List String) (name : String) :
    Except SystemError (List String) :=
  if name = ".." then
    match tree.at? place with
    | .error error => .error error
    | .ok (.file _) => .error .notDirectory
    | .ok (.directory _) => if place.isEmpty then .error .notFound else .ok place.dropLast
  else .ok (place ++ [name])

/-- The names that lead to a path.  The tree is the place that a path starts from; nothing is known
of what is outside. -/
def resolve (tree : FileTree) (path : String) : Except SystemError (List String) :=
  if path.toList.contains '\x00' then .error .nulInName
  else if path.isEmpty || path.startsWith "/" then .error .notFound
  else (Path.components path).foldlM tree.follow []

def readText (tree : FileTree) (path : String) : Except SystemError String := do
  let place ← tree.resolve path
  match ← tree.at? place with
  | .file text => if path.endsWith "/" then .error .notDirectory else .ok text
  | .directory _ => .error .isDirectory

def writeText (tree : FileTree) (path text : String) : Except SystemError FileTree := do
  let place ← tree.resolve path
  tree.write text place

def createDirectory (tree : FileTree) (path : String) : Except SystemError FileTree := do
  let place ← tree.resolve path
  tree.makeDirectory place

def entryNames (tree : FileTree) (path : String) : Except SystemError (List String) := do
  let place ← tree.resolve path
  match ← tree.at? place with
  | .file _ => .error .notDirectory
  | .directory entries => .ok (entries.map Prod.fst)

/-- Keeps the tree that a write leaves, or the tree before it. -/
def commit (change : FileTree → Except SystemError FileTree) :
    StateM FileTree (Except SystemError Unit) := fun tree =>
  match change tree with
  | .ok tree => (.ok (), tree)
  | .error error => (.error error, tree)

end FileTree

/-- A disk in memory. -/
def Disk.ofTree : Disk (StateM FileTree) where
  readText path := do return (← get).readText path
  writeText path text := FileTree.commit fun tree => tree.writeText path text
  createDirectory path := FileTree.commit fun tree => tree.createDirectory path
  entryNames path := do return (← get).entryNames path

end Forms
