import GameSheet.Content.Catalog
import GameSheet.Files.Fault
import GameSheet.Table.Decode
import GameSheet.Table.Encode

/-!
Everything that can go wrong between the manifest, the source files and the assets. An error tells
what was attempted and then why it failed, down to the last cause.
-/

namespace GameSheet

/-- How an error is told: its texts from the outermost to the innermost, and the code and severity of
the error that the context stands around, if it has them. -/
structure ErrorChain where
  texts : List String
  code : Option String
  severity : Option Severity
  deriving DecidableEq, Repr

namespace ErrorChain

def ofDiagnostic {ε : Type} [Diagnostic ε] (cause : ε) : ErrorChain :=
  ⟨Diagnostic.message cause :: Diagnostic.causes cause, some (Diagnostic.code cause),
    some (Diagnostic.severity cause)⟩

def ofName (cause : TableNameError) : ErrorChain := ⟨[cause.message], some cause.code, none⟩

def ofCatalog (cause : CatalogError) : ErrorChain := ⟨[cause.message], some cause.code, none⟩

def plain (texts : List String) : ErrorChain := ⟨texts, none, none⟩

def within (context : String) (chain : ErrorChain) : ErrorChain :=
  { chain with texts := context :: chain.texts }

def line (chain : ErrorChain) : String := ": ".intercalate chain.texts

end ErrorChain

inductive CompileError where
  | schema (cause : SchemaError)
  | encode (cause : EncodeError)
  deriving DecidableEq, Repr

inductive ContentError where
  | unreadable (path : Path) (fault : FileFault)
  | malformedManifest (path : Path)
  | badName (cause : TableNameError)
  | badLayout (table : TableName) (cause : SchemaError)
  | uncompiled (table : TableName) (cause : CompileError)
  | unchecked (table : TableName) (cause : SchemaError)
  | unwritten (table : TableName) (fault : WriteFault)
  | badRowLayout (cause : SchemaError)
  | undecoded (asset : Path) (cause : DecodeError)
  | unindexed (table : TableName) (cause : RowBuildError)
  | badSource (source : Path) (cause : SchemaError)
  | noSchema (table : TableName) (cause : SchemaError)
  | unreadText (table : TableName) (cause : DecodeError)
  | uncatalogued (cause : CatalogError)

namespace ContentError

def compileChain : CompileError → ErrorChain
  | .schema cause => .ofDiagnostic cause
  | .encode cause => .ofDiagnostic cause

def buildChain : RowBuildError → ErrorChain
  | .index cause => .ofDiagnostic cause
  | .field cause => .ofDiagnostic cause

def chain : ContentError → ErrorChain
  | unreadable path fault => .plain [s!"Failed to read file {path.text}: {fault.message}"]
  | malformedManifest path =>
    .plain [s!"Failed to parse manifest {path.text}", "Failed to parse manifest TOML"]
  | badName cause => .ofName cause
  | badLayout table cause =>
    (ErrorChain.ofDiagnostic cause).within s!"Invalid layout for table {table.text}"
  | uncompiled table cause => (compileChain cause).within s!"Failed to compile table {table.text}"
  | unchecked table cause =>
    (ErrorChain.ofDiagnostic cause).within s!"Table {table.text} failed the raw data check"
  | unwritten table fault =>
    (ErrorChain.plain fault.texts).within s!"Failed to write table {table.text}"
  | badRowLayout cause => .ofDiagnostic cause
  | undecoded asset cause => (ErrorChain.ofDiagnostic cause).within s!"Failed to decode {asset.text}"
  | unindexed table cause => (buildChain cause).within s!"Failed to index table {table.text}"
  | badSource source cause => (ErrorChain.ofDiagnostic cause).within s!"Failed to load {source.text}"
  | noSchema table cause =>
    (ErrorChain.ofDiagnostic cause).within s!"Failed to build schema for {table.text}"
  | unreadText table cause =>
    (ErrorChain.ofDiagnostic cause).within s!"Failed to read table {table.text} as text"
  | uncatalogued cause => .ofCatalog cause

end ContentError

end GameSheet
