import GameSheet.Files.Path
import GameSheet.Number.Integer
import GameSheet.Table.BlobFormat
import GameSheet.Text.Pieces

/-!
Command lines. The first argument names a command, and the rest are its options and tables in any
order. An option's value is the next argument, or stands behind an equals sign, or directly behind a
short option; a separate value does not begin with a dash, except for the dash alone. Everything
behind `--` is a table. No option is given twice.
-/

namespace GameSheet

/-- How a command prints what it found. -/
inductive OutputForm where
  | summary
  | json
  | debug
  deriving DecidableEq, Repr

def OutputForm.name : OutputForm → String
  | summary => "summary"
  | json => "json"
  | debug => "debug"

def OutputForm.ofText? (text : String) : Option OutputForm :=
  [summary, json, debug].find? (fun form => form.name = text)

inductive Verb where
  | build | check | inspect | strings | schema
  deriving DecidableEq, Repr

namespace Verb

def all : List Verb := [build, check, inspect, strings, schema]

def name : Verb → String
  | build => "build"
  | check => "check"
  | inspect => "inspect"
  | strings => "strings"
  | schema => "schema"

/-- The verb takes one table and no more; the others take any number of them. -/
def takesOne : Verb → Bool
  | build | check => false
  | inspect | strings | schema => true

end Verb

inductive CommandOption where
  | manifest | form | id | blobFormat | all
  deriving DecidableEq, Repr

namespace CommandOption

def longName : CommandOption → String
  | manifest => "manifest"
  | form => "format"
  | id => "id"
  | blobFormat => "blob-format"
  | all => "all"

def shortName : CommandOption → Option Char
  | manifest => some 'm'
  | form => some 'f'
  | _ => none

def takesValue (option : CommandOption) : Bool := option != all

def ofVerb : Verb → List CommandOption
  | .build => [manifest, form]
  | .check => [manifest]
  | .inspect => [manifest, form, id, blobFormat]
  | .strings => [manifest, form]
  | .schema => [manifest, form, all]

end CommandOption

structure Arguments where
  manifest : Option Path
  form : Option OutputForm
  id : Option Int
  blobFormat : Option BlobFormat
  all : Bool
  tables : List String
  deriving DecidableEq, Repr

/-- Why no command is run. Help and the version are asked for; all else is a mistake. -/
inductive Stop where
  | help
  | version
  | misuse
  deriving DecidableEq, Repr

namespace Arguments

def none : Arguments := ⟨Option.none, Option.none, Option.none, Option.none, false, []⟩

def holds (arguments : Arguments) : CommandOption → Bool
  | .manifest => arguments.manifest.isSome
  | .form => arguments.form.isSome
  | .id => arguments.id.isSome
  | .blobFormat => arguments.blobFormat.isSome
  | .all => arguments.all

/-- An identifier is a signed number of 32 bits. -/
def identifier? (text : String) : Option Int :=
  match Number.Bounded.read .int text.toList with
  | .ok n => some n.toInt
  | .error _ => Option.none

def set? (arguments : Arguments) (option : CommandOption) (value : String) : Option Arguments :=
  match option with
  | .manifest =>
    if value = "" then Option.none else some { arguments with manifest := some ⟨value⟩ }
  | .form => (OutputForm.ofText? value).map (fun form => { arguments with form := some form })
  | .id => (identifier? value).map (fun id => { arguments with id := some id })
  | .blobFormat =>
    (BlobFormat.ofText? value).map (fun format => { arguments with blobFormat := some format })
  | .all => some { arguments with all := true }

def give (arguments : Arguments) (option : CommandOption) (value : String) :
    Except Stop Arguments :=
  if arguments.holds option then .error .misuse
  else
    match arguments.set? option value with
    | some next => .ok next
    | Option.none => .error .misuse

def addTable (verb : Verb) (arguments : Arguments) (table : String) : Except Stop Arguments :=
  if verb.takesOne && !arguments.tables.isEmpty then .error .misuse
  else .ok { arguments with tables := arguments.tables ++ [table] }

/-- What one argument is by its form. -/
inductive Shape where
  | plain
  | separator
  | long (name : List Char) (value : Option (List Char))
  | short (letter : Char) (rest : List Char)
  deriving DecidableEq, Repr

/-- Parts a text at its first equals sign. -/
def splitValue (text : List Char) : List Char × Option (List Char) :=
  match text.dropWhile (· ≠ '=') with
  | [] => (text, Option.none)
  | _ :: value => (text.takeWhile (· ≠ '='), some value)

def Shape.of (argument : String) : Shape :=
  match argument.toList with
  | ['-', '-'] => .separator
  | '-' :: '-' :: text => .long (splitValue text).1 (splitValue text).2
  | '-' :: letter :: rest => .short letter rest
  | _ => .plain

inductive Step where
  | stop (reason : Stop)
  | table
  | tablesOnly
  | flag (option : CommandOption)
  | valued (option : CommandOption) (value : List Char)
  | awaiting (option : CommandOption)
  deriving DecidableEq, Repr

/-- The value that stands directly behind a short option. -/
def attached (option : CommandOption) : List Char → Step
  | [] => .awaiting option
  | '=' :: value => .valued option value
  | value => .valued option value

def Step.of (verb : Verb) (argument : String) : Step :=
  match Shape.of argument with
  | .plain => .table
  | .separator => .tablesOnly
  | .long name value =>
    if name = "help".toList then .stop (if value.isSome then .misuse else .help)
    else
      match (CommandOption.ofVerb verb).find? (fun option => option.longName.toList = name) with
      | Option.none => .stop .misuse
      | some option =>
        match option.takesValue, value with
        | true, some value => .valued option value
        | true, Option.none => .awaiting option
        | false, some _ => .stop .misuse
        | false, Option.none => .flag option
  | .short letter rest =>
    if letter = 'h' then .stop .help
    else
      match (CommandOption.ofVerb verb).find? (fun option => option.shortName = some letter) with
      | Option.none => .stop .misuse
      | some option => attached option rest

/-- Reads arguments from the left on top of what was read. -/
def readFrom (verb : Verb) (arguments : Arguments) : List String → Except Stop Arguments
  | [] => .ok arguments
  | argument :: rest =>
    match Step.of verb argument with
    | .stop reason => .error reason
    | .table => do readFrom verb (← addTable verb arguments argument) rest
    | .tablesOnly => rest.foldlM (addTable verb) arguments
    | .flag option => do readFrom verb (← arguments.give option "") rest
    | .valued option value => do readFrom verb (← arguments.give option (String.ofList value)) rest
    | .awaiting option =>
      match rest with
      | [] => .error .misuse
      | value :: rest =>
        if Shape.of value = .plain then do readFrom verb (← arguments.give option value) rest
        else .error .misuse

end Arguments

inductive Command where
  | build (tables : List String) (form : OutputForm)
  | check (tables : List String)
  | inspect (table : String) (id : Option Int) (blobFormat : Option BlobFormat) (form : OutputForm)
  | strings (table : String) (form : OutputForm)
  | schema (table : String) (all : Bool) (form : OutputForm)
  deriving DecidableEq, Repr

structure Invocation where
  /-- The manifest that was named. -/
  manifest : Option Path
  command : Command
  deriving DecidableEq, Repr

namespace Invocation

def commandOf (verb : Verb) (arguments : Arguments) : Except Stop Command :=
  let form := arguments.form.getD .summary
  match verb, arguments.tables with
  | .build, tables => .ok (.build tables form)
  | .check, tables => .ok (.check tables)
  | .inspect, [table] => .ok (.inspect table arguments.id arguments.blobFormat form)
  | .strings, [table] => .ok (.strings table form)
  | .schema, [table] => .ok (.schema table arguments.all form)
  | _, _ => .error .misuse

def verb? (name : String) : Option Verb := Verb.all.find? (fun verb => verb.name = name)

/-- Help may be asked for on its own or about one command. -/
def isTopic : List String → Bool
  | [] => true
  | [topic] => topic = "help" || (verb? topic).isSome
  | _ => false

/-- What a first argument that is no command asks for. -/
def stopOf (first : String) (rest : List String) : Stop :=
  match Arguments.Shape.of first with
  | .long name none =>
    if name = "help".toList then .help else if name = "version".toList then .version else .misuse
  | .short 'h' _ => .help
  | .short 'V' _ => .version
  | _ => if first = "help" && isTopic rest then .help else .misuse

def ofArguments : List String → Except Stop Invocation
  | [] => .error .misuse
  | first :: rest =>
    match verb? first with
    | none => .error (stopOf first rest)
    | some verb => do
      let arguments ← Arguments.readFrom verb .none rest
      return ⟨arguments.manifest, ← commandOf verb arguments⟩

end Invocation

end GameSheet
