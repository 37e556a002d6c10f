import Forms.CommandLine.EnvFile
import Forms.Form
import Forms.Generation
import Forms.Schema.Store

/-!
# The command line

The program renders a schema, generates one from columns, or lists those in a directory.  What it
prints and how it exits is computed over any disk; the outer layer only passes arguments in and
texts out.
-/

namespace Forms.CommandLine

/-- What the program leaves: its exit code, and the texts it has printed. -/
structure Report where
  exitCode : UInt32
  output : String
  /-- What is printed about a failure. -/
  complaint : String
deriving DecidableEq

namespace Report

def ofOutput (output : String) : Report := ⟨0, output, ""⟩

/-- A failure by its kind; why a text could not be read is not told. -/
def complaintOf (failure : Failure) : String :=
  match failure.kind with
  | .serialization => "Error: Serialization"
  | kind => s!"Error: {kind.name}({quotedText failure.detail})"

def ofOutcome : Outcome String → Report
  | .ok output => .ofOutput output
  | .error failure => ⟨1, "", complaintOf failure⟩

end Report

def versionText : String := "formweave 0.1.0\n"

def helpText : String :=
  "Render, generate and list form schemas

Usage: formweave [OPTIONS] [SCHEMA_PATH] [COMMAND]

Commands:
  render    Render one schema file, optionally submitting it
  generate  Generate a schema from a column-mapping config file
  list      List schema names stored in a directory
  help      Print this message or the help of the given subcommand(s)
"

def usageText : String := "For more information, try '--help'.\n"

/-- The report of arguments that lead to no command. -/
def Stop.report : Stop → Report
  | .usage => ⟨2, "", usageText⟩
  | .help => .ofOutput helpText
  | .version => .ofOutput versionText

/-- The directory that holds a schema file, and the name of the schema in it. -/
def storeOf (path : String) : Outcome (SchemaStore × String) :=
  if Path.extension? path ≠ some SchemaStore.extension then .error (.notSchemaFile path)
  else
    match Path.stem? path with
    | none => .error (.unnamedSchemaFile path)
    | some name =>
      let parent := Path.parent path
      .ok (⟨if parent.isEmpty then "." else parent⟩, name)

/-- The values of a document from the text of a file. -/
def valuesOfText (text : String) : Outcome Values := Decode.fromText .whole Decode.members text

/-- The schema with values written over its initial ones. -/
def withValues (schema : Schema) (values : Values) : Schema :=
  { schema with initialValues := some (Entries.merge (schema.initialValues.getD []) values) }

/-- What a rendering run prints. -/
def renderedJson (form : Form) (choices : Entries (List Choice)) (outcome : Option SubmitOutcome) :
    Json :=
  (Json.object [("form", form.render.toJson), ("options", choicesByNodeJson choices),
    ("submitOutcome", Json.ofOption (fun outcome => .string (SubmitOutcome.name outcome))
      outcome)]).canonical

/-- Submits a form once, to a handler that takes everything. -/
def submitOnce (form : Form) : Form × SubmitOutcome :=
  match form.session.startSubmit form.rules with
  | (session, .ended outcome) => ({ form with session := session }, outcome)
  | (session, .pending _) => ({ form with session := session.endSubmit }, .submitted)

/-- Renders a schema whose files have all been read. -/
def renderSchema (schema : Schema) (rows : RowTable) (config : Config) : String :=
  let service : ChoiceService ChoiceCache.Memory :=
    ⟨some ChoiceCache.memory, config.cacheSeconds, [], 0⟩
  let (choices, _) := service.resolve rows.fetcher schema
  let form := Form.ofSchema schema
  let json :=
    if config.submit then
      let (form, outcome) := submitOnce form
      renderedJson form choices (some outcome)
    else renderedJson form choices none
  json.pretty ++ "\n"

section

variable {m : Type → Type} [Monad m] (disk : Disk m)

def readFile (path : String) : m (Outcome String) := do
  return (← disk.readText path).mapError (Failure.fileNotRead path)

/-- Reads a file that may not be asked for. -/
def readOptional {α : Type} (path : Option String) (absent : α) (read : String → Outcome α) :
    m (Outcome α) := do
  match path with
  | none => return .ok absent
  | some path => return (← readFile disk path).bind read

def render (config : Config) (path : String) : m (Outcome String) := do
  match storeOf path with
  | .error failure => return .error failure
  | .ok (store, name) =>
    match ← store.load disk name with
    | .error failure => return .error failure
    | .ok schema =>
      match ← readOptional disk config.valuesPath schema
          (fun text => (valuesOfText text).map (withValues schema)) with
      | .error failure => return .error failure
      | .ok schema =>
        match ← readOptional disk config.optionRowsPath [] RowTable.ofText with
        | .error failure => return .error failure
        | .ok rows => return .ok (renderSchema schema rows config)

/-- The text of the schema that a configuration generates. -/
def generatedText (text : String) : Outcome String := do
  let config ← Decode.fromText GenerationConfig.shape GenerationConfig.decode text
  let schema ← config.schema
  .ok (schema.text ++ "\n")

def generate (path : String) : m (Outcome String) := do
  return (← readFile disk path).bind generatedText

def list (directory : String) : m (Outcome String) := do
  return (← (SchemaStore.mk directory).list disk).map fun names =>
    String.join (names.map fun name => name ++ "\n")

def runCommand (config : Config) : m (Outcome String) :=
  match config.command with
  | .render path => render disk config path
  | .generate path => generate disk path
  | .list directory => list disk directory

/-- The environment, completed by the file `.env` when there is one. -/
def completeEnvironment (environment : Environment) : m Environment := do
  match ← disk.readText ".env" with
  | .ok text => return EnvFile.complete environment text
  | .error _ => return environment

def run (environment : Environment) (arguments : List String) : m Report := do
  let environment ← completeEnvironment disk environment
  match Reading.ofArguments arguments with
  | .error stop => return stop.report
  | .ok reading =>
    match reading.config environment with
    | .error stop => return stop.report
    | .ok (.error failure) => return .ofOutcome (.error failure)
    | .ok (.ok config) => return .ofOutcome (← runCommand disk config)

end

end Forms.CommandLine
