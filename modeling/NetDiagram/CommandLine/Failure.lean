import NetDiagram.Diagnostic
import NetDiagram.Document.Basic
import NetDiagram.Settings.Basic

/-!
# Failures

Why the program does not do what it is asked to, and how that is reported: a text that cannot be
used is reported problem by problem, and anything else as a whole.
-/

namespace NetDiagram.CommandLine

inductive FileProblem where
  | notFound
  | isADirectory
  | notADirectory
  /-- The bytes are no text in UTF-8. -/
  | invalidData
  /-- A name or the whole path is too long. -/
  | invalidName
  /-- The path has a character that no path can have. -/
  | invalidPath
  | other
deriving DecidableEq, Repr

namespace FileProblem

def name : FileProblem → String
  | notFound => "NotFound"
  | isADirectory => "IsADirectory"
  | notADirectory => "NotADirectory"
  | invalidData => "InvalidData"
  | invalidName => "InvalidFilename"
  | invalidPath => "InvalidInput"
  | other => "Other"

def message : FileProblem → String
  | notFound => "no such file or directory"
  | isADirectory => "is a directory"
  | notADirectory => "not a directory"
  | invalidData => "not a text in UTF-8"
  | invalidName => "file name too long"
  | invalidPath => "not a path"
  | other => "the file cannot be used"

end FileProblem

inductive ConfigProblem where
  | missingFile (path : String)
  /-- The file is no settings document. -/
  | malformed
  | invalid (problem : Settings.Problem)
  /-- A diagram was to be drawn with such a setting. -/
  | unusable (problem : Settings.Problem)
  | other (message : String)

def ConfigProblem.message : ConfigProblem → String
  | missingFile path => "Missing configuration file: " ++ path
  | malformed => "Failed to parse TOML configuration"
  | invalid problem => "Validation error: " ++ problem.message
  | unusable problem => problem.message
  | other message => message

inductive Failure where
  | file (problem : FileProblem)
  | text (error : ParseError)
  | config (problem : ConfigProblem)
  | format (name : String)

def Failure.message : Failure → String
  | file problem => "I/O error: " ++ problem.message
  | text error => error.headline
  | config problem => "Configuration error: " ++ problem.message
  | format name => "Export error: " ++ Format.unknownMessage name

/-! ## Reports -/

structure Report where
  display : String
  code : Option String := none
  severity : Option Severity := none
  help : Option String := none
  labels : List Diagnostic.Label := []
  /-- Whether the labels belong to a source text. -/
  hasSource : Bool := false
  /-- Whether there is a cause behind the failure. -/
  hasCause : Bool := false

def Report.ofDiagnostic (d : Diagnostic) : Report where
  display := d.message
  code := d.code.map (·.name)
  severity := some d.severity
  help := d.help
  labels := d.labels
  hasSource := true

def configHelp : String :=
  "check the [layout] and [style] sections of the configuration file"

def Failure.reports (f : Failure) : List Report :=
  match f with
  | text error => error.diagnostics.map .ofDiagnostic
  | file _ => [{ display := f.message, code := some "topofac::io", hasCause := true }]
  | config _ =>
    [{ display := f.message, code := some "topofac::config", help := some configHelp }]
  | format _ => [{ display := f.message, code := some "topofac::export" }]

end NetDiagram.CommandLine
