import Forms.CommandLine.Arguments
import Forms.Unicode.Blank
import Forms.Unicode.Alphanumeric

/-!
# Environment files

A file `.env` gives variables that the environment does not have, one assignment a line.  A value
may be quoted, in single quotes as it stands, in double quotes with escapes and references; a
reference is a dollar sign and a name, perhaps in braces.  A number sign behind a blank begins a
comment.  Reading stops at the first line that is no assignment, and keeps what stands before it.
-/

namespace Forms.CommandLine.EnvFile

/-- Where the end of a line leaves a value. -/
inductive LineState where
  | complete
  | blank
  | escape
  | double
  | doubleEscape
  | single
  | singleEscape
  | comment
deriving DecidableEq

namespace LineState

/-- How a character outside all quotes is taken. -/
def openWith (c : Char) (otherwise : LineState) : LineState :=
  if c = '\\' then .escape
  else if c = '"' then .double
  else if c = '\'' then .single
  else otherwise

def next (state : LineState) (c : Char) : LineState :=
  match state with
  | .blank => if c = '#' then .comment else openWith c .complete
  | .escape => .complete
  | .complete =>
    openWith c (if Unicode.isBlank c ∧ c ≠ '\n' ∧ c ≠ '\r' then .blank else .complete)
  | .double => if c = '\\' then .doubleEscape else if c = '"' then .complete else .double
  | .doubleEscape => .double
  | .single => if c = '\\' then .singleEscape else if c = '\'' then .complete else .single
  | .singleEscape => .single
  | .comment => .comment

end LineState

/-- The characters of a line up to its comment, after those of the lines it continues, and where it
ends. -/
def readLine (state : LineState) (held : List Char) : List Char → List Char × LineState
  | [] => (held, state)
  | c :: chars =>
    match state.next c with
    | .comment => (held, .comment)
    | state => readLine state (held ++ [c]) chars

/-- Lines with their line breaks. -/
def physicalLines : List Char → List (List Char)
  | [] => []
  | c :: chars =>
    if c = '\n' then ['\n'] :: physicalLines chars
    else
      match physicalLines chars with
      | [] => [[c]]
      | line :: lines => (c :: line) :: lines

def startsComment (chars : List Char) : Bool := (chars.dropWhile Unicode.isBlank).head? == some '#'

/-- Lines joined while a quote is open.  None stands for a quote that is never closed. -/
def logicalLines (state : LineState) (held : List Char) :
    List (List Char) → List (Option (List Char))
  | [] => if state = .complete then [] else [none]
  | line :: lines =>
    if startsComment (held ++ line) then some [] :: logicalLines .complete [] lines
    else
      match readLine state held line with
      | (text, .complete) | (text, .comment) => some text :: logicalLines .complete [] lines
      | (text, state) => logicalLines state text lines

/-- How a reference is being read. -/
inductive Reference where
  | none
  | bare (name : List Char)
  | braced (name : List Char)
deriving DecidableEq

inductive Quote where
  | none
  | single
  | double
deriving DecidableEq

/-- A value as far as it has been read. -/
structure ValueState where
  output : List Char
  quote : Quote
  escaped : Bool
  /-- Only blanks and a comment may follow. -/
  ended : Bool
  inComment : Bool
  reference : Reference

namespace ValueState

def start : ValueState := ⟨[], .none, false, false, false, .none⟩

def push (state : ValueState) (chars : List Char) : ValueState :=
  { state with output := state.output ++ chars }

/-- A character that is neither escaped nor part of a reference, outside single quotes. -/
def plain (state : ValueState) (c : Char) : ValueState :=
  if c = '$' then { state with reference := .bare [] }
  else if c = '\\' then { state with escaped := true }
  else
    match state.quote with
    | .double => if c = '"' then { state with quote := .none } else state.push [c]
    | _ =>
      if c = '\'' then { state with quote := .single }
      else if c = '"' then { state with quote := .double }
      else if c = ' ' ∨ c = '\t' then { state with ended := true }
      else state.push [c]

def escape? (c : Char) : Option Char :=
  if c = 'n' then some '\n'
  else if c = '\\' ∨ c = '\'' ∨ c = '"' ∨ c = '$' ∨ c = ' ' then some c
  else none

/-- One more character of a name that is referred to. -/
def refer (valueOf : String → String) (state : ValueState) (c : Char) : Option ValueState :=
  match state.reference with
  | .none => none
  | .bare name =>
    if Unicode.isAlphanumeric c then some { state with reference := .bare (name ++ [c]) }
    else if c = '\x7b' ∧ name.isEmpty then some { state with reference := .braced [] }
    else
      let state := (state.push (valueOf (String.ofList name)).toList)
      if c = '$' then some { state with reference := .bare [] }
      else some ({ state with reference := .none }.push [c])
  | .braced name =>
    if c = '\x7d' then
      some ({ state with reference := .none }.push (valueOf (String.ofList name)).toList)
    else some { state with reference := .braced (name ++ [c]) }

def step (valueOf : String → String) (state : ValueState) (c : Char) : Option ValueState :=
  if state.inComment then some state
  else if state.ended then
    if c = ' ' ∨ c = '\t' then some state
    else if c = '#' then some { state with inComment := true }
    else none
  else if state.escaped then
    (escape? c).map fun c => { state with escaped := false }.push [c]
  else if state.quote = .single then
    some (if c = '\'' then { state with quote := .none } else state.push [c])
  else if state.reference ≠ .none then state.refer valueOf c
  else some (state.plain c)

def finish (valueOf : String → String) (state : ValueState) : Option String :=
  if state.quote ≠ .none then none
  else
    match state.reference with
    | .none => some (String.ofList state.output)
    | .bare name => some (String.ofList (state.output ++ (valueOf (String.ofList name)).toList))
    | .braced _ => none

end ValueState

def value? (valueOf : String → String) (chars : List Char) : Option String := do
  let state ← chars.foldlM (ValueState.step valueOf) ValueState.start
  state.finish valueOf

def isKeyStart (c : Char) : Bool := c.isAlpha || c == '_'

def isKeyChar (c : Char) : Bool := c.isAlphanum || c == '_' || c == '.'

def skipBlanks (chars : List Char) : List Char := chars.dropWhile Unicode.isBlank

/-- A key, and what follows it and the blanks behind it. -/
def key? (chars : List Char) : Option (String × List Char) :=
  match chars with
  | c :: _ =>
    if isKeyStart c then
      some (String.ofList (chars.takeWhile isKeyChar), skipBlanks (chars.dropWhile isKeyChar))
    else none
  | [] => none

def afterEquals? : List Char → Option (List Char)
  | '=' :: chars => some chars
  | _ => none

/-- The key of an assignment, and the value as it is written.  The word `export` before it counts
for nothing. -/
def assignment? (chars : List Char) : Option (String × List Char) := do
  let (key, rest) ← key? chars
  match afterEquals? rest with
  | some value => some (key, skipBlanks value)
  | none =>
    if key = "export" then
      let (key, rest) ← key? rest
      let value ← afterEquals? rest
      some (key, skipBlanks value)
    else none

/-- What has been read: the environment with the variables that were added, and all values of the
file. -/
structure Variables where
  environment : Environment
  written : Environment

namespace Variables

/-- The value of a reference; the environment comes first. -/
def valueOf (known : Variables) (name : String) : String :=
  match known.environment.get? name with
  | some value => value
  | none => (known.written.get? name).getD ""

/-- Adds a variable that the environment does not have. -/
def assign (known : Variables) (key value : String) : Variables where
  environment :=
    match known.environment.get? key with
    | some _ => known.environment
    | none => known.environment.insert key value
  written := known.written.insert key value

/-- Reads a line; none when it is no assignment. -/
def readLine (known : Variables) (line : List Char) : Option Variables :=
  let chars := skipBlanks (line.reverse.dropWhile Unicode.isBlank).reverse
  if chars.isEmpty || chars.head? == some '#' then some known
  else do
    let (key, written) ← assignment? chars
    if written.isEmpty || written.head? == some '#' then some (known.assign key "")
    else do
      let value ← value? known.valueOf written
      some (known.assign key value)

def readLines (known : Variables) : List (Option (List Char)) → Variables
  | some line :: lines =>
    match known.readLine line with
    | some known => readLines known lines
    | none => known
  | _ => known

end Variables

/-- The environment completed by a file. -/
def complete (environment : Environment) (text : String) : Environment :=
  let chars := text.toList
  let chars := if chars.head? == some '\ufeff' then chars.drop 1 else chars
  (Variables.readLines ⟨environment, []⟩
    (logicalLines .complete [] (physicalLines chars))).environment

end Forms.CommandLine.EnvFile
