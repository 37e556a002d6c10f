import Forms.Choice.Service
import Forms.Failure

/-!
# Arguments of the command line

Arguments are read one by one.  An option takes the next argument as its value unless it brings one
behind an equals sign.  Options may stand before and after the name of a command, and the later
place counts; in one place an option stands once.  What the arguments leave open is taken from the
environment, where each setting has a variable.
-/

namespace Forms.CommandLine

inductive CommandName where
  | render
  | generate
  | list
deriving DecidableEq

namespace CommandName

def ofText? : String → Option CommandName
  | "render" => some .render
  | "generate" => some .generate
  | "list" => some .list
  | _ => none

end CommandName

inductive OptionName where
  | valuesPath
  | optionRowsPath
  | submit
  | cacheSeconds
deriving DecidableEq

namespace OptionName

def all : List OptionName := [.valuesPath, .optionRowsPath, .submit, .cacheSeconds]

def text : OptionName → String
  | .valuesPath => "values-path"
  | .optionRowsPath => "option-rows-path"
  | .submit => "submit"
  | .cacheSeconds => "option-cache-ttl-seconds"

def variableName : OptionName → String
  | .valuesPath => "FORMWEAVE_VALUES_PATH"
  | .optionRowsPath => "FORMWEAVE_OPTION_ROWS_PATH"
  | .submit => "FORMWEAVE_SUBMIT"
  | .cacheSeconds => "FORMWEAVE_OPTION_CACHE_TTL_SECONDS"

def ofText? (text : String) : Option OptionName := all.find? fun name => name.text == text

/-- A whole number of seconds that fits 32 bits, perhaps with a sign. -/
def seconds? (text : String) : Option UInt32 :=
  let chars := text.toList
  let negative := chars.head? == some '-'
  let digits := if negative || chars.head? == some '+' then chars.drop 1 else chars
  let value := Token.digitsValue digits
  if digits.isEmpty || !digits.all Token.isDigit then none
  else if negative && value != 0 then none
  else if value < UInt32.size then some (UInt32.ofNat value)
  else none

/-- Whether an option takes a value. -/
def accepts (name : OptionName) (value : String) : Bool :=
  match name with
  | .valuesPath | .optionRowsPath => !value.isEmpty
  | .submit => true
  | .cacheSeconds => (seconds? value).isSome

end OptionName

/-- What has been given in one place, before or after the name of a command. -/
structure Given where
  options : List (OptionName × String)
  path : Option String
deriving DecidableEq

namespace Given

def empty : Given := ⟨[], none⟩

def option? (given : Given) (name : OptionName) : Option String := given.options.lookup name

end Given

/-- Why arguments lead to no command. -/
inductive Stop where
  | usage
  | help
  | version
deriving DecidableEq

/-- Arguments as far as they have been read. -/
structure Reading where
  /-- What stands before the name of the command. -/
  outer : Given
  command : Option CommandName
  /-- What stands after it. -/
  inner : Given
  /-- An option whose value has not come yet. -/
  pending : Option OptionName
  /-- Everything that follows is a path. -/
  pathsOnly : Bool
deriving DecidableEq

namespace Reading

def start : Reading := ⟨.empty, none, .empty, none, false⟩

def current (reading : Reading) : Given :=
  match reading.command with
  | none => reading.outer
  | some _ => reading.inner

def withCurrent (reading : Reading) (given : Given) : Reading :=
  match reading.command with
  | none => { reading with outer := given }
  | some _ => { reading with inner := given }

def addOption (reading : Reading) (name : OptionName) (value : String) : Except Stop Reading :=
  let given := reading.current
  if (given.option? name).isSome || !name.accepts value then .error .usage
  else .ok (reading.withCurrent { given with options := (name, value) :: given.options })

def addPath (reading : Reading) (path : String) : Except Stop Reading :=
  let given := reading.current
  if given.path.isSome || path.isEmpty || reading.pending.isSome then .error .usage
  else .ok (reading.withCurrent { given with path := some path })

/-- What stands before the first equals sign, and what stands behind it. -/
def splitAtEquals (chars : List Char) : String × Option String :=
  let name := String.ofList (chars.takeWhile fun c => c != '=')
  match chars.dropWhile fun c => c != '=' with
  | [] => (name, none)
  | _ :: value => (name, some (String.ofList value))

/-- An argument that begins with two dashes. -/
def addLong (reading : Reading) (chars : List Char) : Except Stop Reading :=
  if reading.pending.isSome then .error .usage
  else
    let (name, value) := splitAtEquals chars
    match OptionName.ofText? name, value with
    | some option, some value => reading.addOption option value
    | some option, none => .ok { reading with pending := some option }
    | none, none =>
      if name = "help" then .error .help
      else if name = "version" ∧ reading.command = none then .error .version
      else .error .usage
    | none, some _ => .error .usage

/-- An argument that begins with a single dash. -/
def addShort (reading : Reading) (letter : Char) : Except Stop Reading :=
  if reading.pending.isSome then .error .usage
  else if letter = 'h' then .error .help
  else if letter = 'V' ∧ reading.command = none then .error .version
  else .error .usage

/-- An argument that is no option and no command. -/
def addPlain (reading : Reading) (argument : String) : Except Stop Reading :=
  match reading.pending with
  | some option => { reading with pending := none }.addOption option argument
  | none => reading.addPath argument

/-- The name of a command, while there is none. -/
def command? (reading : Reading) (argument : String) : Option CommandName :=
  match reading.command with
  | none => CommandName.ofText? argument
  | some _ => none

def step (reading : Reading) (argument : String) : Except Stop Reading :=
  if reading.pathsOnly then reading.addPath argument
  else
    match reading.command? argument with
    | some command =>
      if reading.pending.isSome then .error .usage else .ok { reading with command := some command }
    | none =>
      if argument = "help" ∧ reading.command = none then .error .help
      else
        match argument.toList with
        | ['-', '-'] => if reading.pending.isSome then .error .usage
          else .ok { reading with pathsOnly := true }
        | '-' :: '-' :: chars => reading.addLong chars
        | '-' :: letter :: _ => reading.addShort letter
        | _ => reading.addPlain argument

def ofArguments (arguments : List String) : Except Stop Reading := do
  let reading ← arguments.foldlM step start
  if reading.pending.isSome then .error .usage else .ok reading

end Reading

/-- Variables by name. -/
abbrev Environment := Entries String

/-- What the program is to do. -/
inductive Command where
  | render (schemaPath : String)
  | generate (configPath : String)
  | list (schemaDirectory : String)
deriving DecidableEq

structure Config where
  command : Command
  valuesPath : Option String
  optionRowsPath : Option String
  submit : Bool
  cacheSeconds : UInt32
deriving DecidableEq

namespace Reading

def schemaPathVariable : String := "FORMWEAVE_SCHEMA_PATH"

def schemaDirectoryVariable : String := "FORMWEAVE_SCHEMA_DIR"

/-- A path from the environment; it must not be empty. -/
def pathFrom (environment : Environment) (variableName : String) : Except Stop (Option String) :=
  match environment.get? variableName with
  | some path => if path.isEmpty then .error .usage else .ok (some path)
  | none => .ok none

/-- A path that was given, or else the one from the environment. -/
def pathOr (given : Option String) (environment : Environment) (variableName : String) :
    Except Stop (Option String) :=
  match given with
  | some path => .ok (some path)
  | none => pathFrom environment variableName

/-- Whether the environment has a fit value for every option that is not given. -/
def environmentFits (given : Given) (environment : Environment) : Bool :=
  OptionName.all.all fun name =>
    (given.option? name).isSome
      || (match environment.get? name.variableName with
        | some value => name.accepts value
        | none => true)

/-- The value of an option: the one after the command, the one before it, or that of its
variable. -/
def option? (reading : Reading) (environment : Environment) (name : OptionName) : Option String :=
  match reading.inner.option? name, reading.outer.option? name with
  | some value, _ => some value
  | none, some value => some value
  | none, none => environment.get? name.variableName

/-- The command and the path it works on; none when there is neither. -/
def requested (reading : Reading) (environment : Environment) : Except Stop (Option Command) := do
  let path := reading.inner.path
  let inner ← match reading.command with
    | none => .ok none
    | some .render => do
      match ← pathOr path environment schemaPathVariable with
      | some path => .ok (some (Command.render path))
      | none => .error .usage
    | some .generate =>
      match path with
      | some path => .ok (some (Command.generate path))
      | none => .error .usage
    | some .list => do
      let path ← pathOr path environment schemaDirectoryVariable
      .ok (some (Command.list (path.getD ".")))
  let outer ← pathOr reading.outer.path environment schemaPathVariable
  .ok (inner.or (outer.map Command.render))

/-- Whether to submit.  Anything but a truth value is refused. -/
def submits (value : Option String) : Outcome Bool :=
  let text := Unicode.trim (value.getD "")
  let lower := text.map Char.toLower
  if text.isEmpty || lower = "false" then .ok false
  else if lower = "true" then .ok true
  else .error (.submitNotBoolean text)

/-- The configuration, or the reason why there is none. -/
def config (reading : Reading) (environment : Environment) : Except Stop (Outcome Config) := do
  let fits := environmentFits reading.outer environment
    && (reading.command.isNone || environmentFits reading.inner environment)
  if !fits then .error .usage
  else
    let command ← reading.requested environment
    let seconds := ((reading.option? environment .cacheSeconds).bind OptionName.seconds?).getD
      ChoiceService.defaultTimeToLive
    .ok (match command with
      | none => .error .schemaPathRequired
      | some command => do
        let submit ← submits (reading.option? environment .submit)
        .ok ⟨command, reading.option? environment .valuesPath,
          reading.option? environment .optionRowsPath, submit, seconds⟩)

end Reading

end Forms.CommandLine
