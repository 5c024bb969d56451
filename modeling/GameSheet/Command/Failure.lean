import GameSheet.Content.Error
import GameSheet.Text.Column
import GameSheet.Text.Pieces

/-!
What ends a command, and how it is reported: the error first and then its causes in a list.
-/

namespace GameSheet

inductive CommandError where
  | noManifest (file : Path) (cause : ContentError)
  | badTable (text : String) (cause : TableNameError)
  | content (cause : ContentError)
  | noAsset (table : TableName) (asset : Path)
  | unreadAsset (asset : Path) (fault : FileFault)
  | undecodedAsset (asset : Path) (cause : DecodeError)
  | noRow (table : TableName) (id : Int)
  /-- Some of the tables were not compiled. -/
  | failedTables (failed total : Nat)
  /-- Some of the tables are not in order. -/
  | failedChecks (failed total : Nat)

namespace ErrorChain

/-- A text behind a mark, with its further lines below the first one. -/
def hang (mark text : String) : String :=
  let lineBreak := "\n" ++ String.ofList (List.replicate mark.length ' ')
  mark ++ lineBreak.intercalate ((Text.pieces '\n' text.toList).map String.ofList) ++ "\n"

/-- Several causes are counted from zero. -/
def causeList : List String → List String
  | [cause] => [hang "    " cause]
  | causes =>
    causes.zipIdx.map (fun (cause, number) => hang (Text.alignRight 5 s!"{number}" ++ ": ") cause)

def report (chain : ErrorChain) : String :=
  match chain.texts with
  | [] => ""
  | [text] => s!"Error: {text}\n"
  | text :: causes => s!"Error: {text}\n\nCaused by:\n" ++ String.join (causeList causes)

end ErrorChain

namespace CommandError

def chain : CommandError → ErrorChain
  | noManifest file cause => cause.chain.within s!"Failed to load manifest {file.text}"
  | badTable text cause => (ErrorChain.ofName cause).within s!"Invalid table name: {text}"
  | content cause => cause.chain
  | noAsset table asset =>
    .plain [s!"Asset not found: {asset.text}\n\nHint: run `datatable build {table.text}` first"]
  | unreadAsset asset fault => .plain [s!"Failed to read asset: {asset.text}", fault.message]
  | undecodedAsset asset cause =>
    (ErrorChain.ofDiagnostic cause).within s!"Failed to decode asset: {asset.text}"
  | noRow table id => .plain [s!"Table {table.text} has no row with id {id}"]
  | failedTables failed total => .plain [s!"{failed} of {total} tables failed"]
  | failedChecks failed total => .plain [s!"{failed} of {total} tables failed the raw data check"]

def report (error : CommandError) : String := error.chain.report

end CommandError

end GameSheet
