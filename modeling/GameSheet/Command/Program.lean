import GameSheet.Command.Arguments
import GameSheet.Command.Environment
import GameSheet.Command.Summary
import GameSheet.Json.Describe

/-!
The whole program as a function of its arguments, its environment and its files. A run that succeeds
exits with 0, one that fails with 1 and a report, and one whose arguments are wrong with 2.
-/

namespace GameSheet

structure Outcome where
  exit : Nat
  output : String
  errors : String
  deriving DecidableEq, Repr

namespace Outcome

def success (output : String) : Outcome := ⟨0, output, ""⟩

def failure (error : CommandError) : Outcome := ⟨1, "", error.report⟩

/-- Prints a result, which stands even if the run fails on account of it. -/
def ofResult (output errors : String) : Option CommandError → Outcome
  | none => ⟨0, output, errors⟩
  | some error => ⟨1, output, errors ++ error.report⟩

end Outcome

/-- The texts of the debug form. They show how the values are laid out in the program that runs, so
they come from outside. -/
structure DebugTexts where
  reports : List TableReport → String
  records : List Record → String
  pool : StringPool → String
  columns : List Column → String

/-- JSON in the place of the debug form. -/
def DebugTexts.json : DebugTexts where
  reports reports := (Json.array (reports.map TableReport.json)).text
  records records := (Json.array (records.map Record.json)).text
  pool pool := pool.json.text
  columns columns := (Json.array (columns.map Column.json)).text

def OutputForm.choose (form : OutputForm) (summary : String) (json : Json) (debug : String) :
    String :=
  match form with
  | .summary => summary
  | .json => json.text ++ "\n"
  | .debug => debug ++ "\n"

namespace Outcome

def ofBuild (debug : DebugTexts) (form : OutputForm) (result : BuildResult) : Outcome :=
  ofResult (form.choose result.summary (.array (result.reports.map TableReport.json))
    (debug.reports result.reports)) result.failureText result.error?

def ofCheck (result : CheckResult) : Outcome := ofResult result.summary "" result.error?

def ofInspection (debug : DebugTexts) (form : OutputForm) (inspection : Inspection) : Outcome :=
  success (inspection.head ++ form.choose inspection.summary
    (.array (inspection.records.map Record.json)) (debug.records inspection.records))

def ofStrings (debug : DebugTexts) (form : OutputForm) (table : TableName) (pool : StringPool) :
    Outcome :=
  success (form.choose (pool.summary table) pool.json (debug.pool pool))

def ofSchema (debug : DebugTexts) (form : OutputForm) (all : Bool) (schema : Schema) : Outcome :=
  success (form.choose (schema.summary all) schema.json (debug.columns schema.columns))

end Outcome

/-! Usage -/

namespace Verb

def purpose : Verb → String
  | build => "Compile tables to binary assets"
  | check => "Check sources without writing anything"
  | inspect => "Decode a compiled asset and print its rows"
  | strings => "Print the string pool of a table"
  | schema => "Print the schema of a table"

def usageLine (verb : Verb) : String :=
  "  " ++ Text.alignLeft 9 verb.name ++ verb.purpose

end Verb

def usage : String :=
  unlines (["Compile and inspect game data tables", "",
    "Usage: datatable <COMMAND> [OPTIONS] [TABLE]...", "", "Commands:"] ++
    Verb.all.map Verb.usageLine)

def version : String := "datatable 0.1.0\n"

def Stop.outcome : Stop → Outcome
  | help => .success usage
  | .version => .success GameSheet.version
  | misuse => ⟨2, "", usage⟩

/-! Environment -/

namespace Environment

def manifestVariable : String := "DATATABLE_MANIFEST"

def sourceVariable : String := "DATATABLE_SOURCE_DIR"

def outputVariable : String := "DATATABLE_OUTPUT_DIR"

/-- The variables that the program itself looks at. -/
def ownNames : List String := [manifestVariable, sourceVariable, outputVariable]

def path? (environment : Environment) (name : String) : Option Path :=
  (environment.get? name).map Path.mk

def manifestFile (environment : Environment) : Path :=
  (environment.path? manifestVariable).getD Manifest.standardFile

/-- The manifest with the directories that the environment sets. -/
def override (environment : Environment) (manifest : Manifest) : Manifest :=
  manifest.overrideDirs (environment.path? sourceVariable) (environment.path? outputVariable)

end Environment

section Files

variable {m : Type → Type} [Monad m] [FileAccess m]

/-- The environment with what the nearest file of its own adds. -/
def Environment.extend (environment : Environment) : List Path → m Environment
  | [] => return environment
  | directory :: above => do
    match ← FileAccess.read (directory.join ⟨".env"⟩) with
    | .ok bytes => return EnvFile.load environment bytes
    | .error _ => environment.extend above

def Environment.loadManifest (environment : Environment) (file : Option Path) :
    ExceptT CommandError m Manifest := do
  let file := file.getD environment.manifestFile
  let manifest ← (Manifest.load file).adapt (CommandError.noManifest file)
  return environment.override manifest

def Command.perform (debug : DebugTexts) (manifest : Manifest) :
    Command → ExceptT CommandError m Outcome
  | build tables form => do return .ofBuild debug form (← manifest.build tables)
  | check tables => do return .ofCheck (← manifest.check tables)
  | inspect table id format form => do
    return .ofInspection debug form (← manifest.inspect table id format)
  | strings table form => do
    let (name, pool) ← manifest.strings table
    return .ofStrings debug form name pool
  | schema table all form => do return .ofSchema debug form all (← manifest.schema table)

def Invocation.perform (debug : DebugTexts) (invocation : Invocation) (environment : Environment) :
    ExceptT CommandError m Outcome := do
  invocation.command.perform debug (← environment.loadManifest invocation.manifest)

/-- One run. `directories` are the working directory and those above it, nearest first. -/
def runProgram (debug : DebugTexts) (directories : List Path) (environment : Environment)
    (arguments : List String) : m Outcome := do
  let environment ← environment.extend directories
  match Invocation.ofArguments arguments with
  | .error stop => return stop.outcome
  | .ok invocation =>
    match ← (invocation.perform debug environment).run with
    | .ok outcome => return outcome
    | .error error => return .failure error

end Files

end GameSheet
