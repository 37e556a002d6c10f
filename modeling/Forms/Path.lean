/-!
# Paths

A path is a text whose parts are divided by slashes.  Empty parts count for nothing, and neither
does a single point, except at the beginning, where it stands for the place the path starts from.
-/

namespace Forms.Path

/-- The parts between slashes, empty ones included. -/
def splitAtSlashes : List Char → List (List Char)
  | [] => [[]]
  | c :: chars =>
    if c = '/' then [] :: splitAtSlashes chars
    else
      match splitAtSlashes chars with
      | [] => [[c]]
      | part :: parts => (c :: part) :: parts

/-- The parts that count. -/
def components (path : String) : List String :=
  ((splitAtSlashes path.toList).filter fun part => part != [] && part != ['.']).map String.ofList

/-- The characters up to the end of the last part that counts, given in reverse. -/
def trimIdle : List Char → List Char
  | [] => []
  | '/' :: chars => trimIdle chars
  | '.' :: '/' :: chars => trimIdle ('/' :: chars)
  | chars => chars

/-- The last part; the place above has no name. -/
def fileName? (path : String) : Option String :=
  match (components path).getLast? with
  | some name => if name = ".." then none else some name
  | none => none

/-- What stands before and behind the last point of a name.  A name whose only point is its first
character has no extension. -/
def splitName (name : String) : String × Option String :=
  let behind := name.toList.reverse.takeWhile fun c => c != '.'
  let before := (name.toList.reverse.dropWhile fun c => c != '.').drop 1
  if name.toList.contains '.' && !before.isEmpty then
    (String.ofList before.reverse, some (String.ofList behind.reverse))
  else (name, none)

def stem? (path : String) : Option String := (fileName? path).map fun name => (splitName name).1

def extension? (path : String) : Option String :=
  (fileName? path).bind fun name => (splitName name).2

/-- The path without its last part, as it is written. -/
def parent (path : String) : String :=
  let ending := trimIdle path.toList.reverse
  let rest := trimIdle (ending.dropWhile fun c => c != '/')
  if rest.isEmpty && path.startsWith "/" then "/" else String.ofList rest.reverse

/-- A path with a name added. -/
def join (path name : String) : String :=
  if path.isEmpty || path.endsWith "/" then path ++ name else s!"{path}/{name}"

end Forms.Path
