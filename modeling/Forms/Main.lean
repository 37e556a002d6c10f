import Forms.CommandLine.Program

/-!
# The program

Passes the arguments, the environment and the files of the machine to the command line, and prints
what it reports.
-/

open Forms Forms.CommandLine

/-- The reason that an operation of the system gave. -/
def systemErrorOf (error : IO.Error) : SystemError :=
  match error with
  | .noFileOrDirectory .. => .notFound
  | .alreadyExists .. => .exists
  | .inappropriateType _ code _ => if code = 21 then .isDirectory else .notDirectory
  | other => .other (toString other)

/-- The result of an operation of the system. -/
def attempt {α : Type} (operation : IO α) : IO (Except SystemError α) := do
  return (← operation.toBaseIO).mapError systemErrorOf

/-- The files of the machine. -/
def machineDisk : Disk IO where
  readText path := attempt (IO.FS.readFile path)
  writeText path text := attempt (IO.FS.writeFile path text)
  createDirectory path := attempt (IO.FS.createDirAll path)
  entryNames path := attempt do
    let entries ← (System.mkFilePath [path]).readDir
    return entries.toList.map fun entry => entry.fileName

/-- The variables that the command line looks at. -/
def variableNames : List String :=
  Reading.schemaPathVariable :: Reading.schemaDirectoryVariable
    :: OptionName.all.map OptionName.variableName

def readEnvironment : IO Environment := do
  let mut environment : Environment := []
  for name in variableNames do
    if let some value ← IO.getEnv name then
      environment := Entries.insert name value environment
  return environment

def main (arguments : List String) : IO UInt32 := do
  let report ← run machineDisk (← readEnvironment) arguments
  IO.print report.output
  unless report.complaint.isEmpty do
    IO.eprintln report.complaint
  return report.exitCode
