import NetDiagram.CommandLine.Arguments
import NetDiagram.CommandLine.Files
import NetDiagram.Journal.Drawing
import NetDiagram.Settings.Decode
import NetDiagram.Toml.Document

/-!
# A run of the program

A run reads settings and a text, and either checks the text or draws it. Everything up to the
writing of the output is planned first, so a run that fails on the way writes nothing.
-/

namespace NetDiagram.CommandLine

open Log (Record)

/-! ## Settings -/

/-- Where the settings are looked for, after the file that is asked for. -/
def localConfig : String := "topofac/config.toml"

class SettingsReader where
  read? : String → Option Settings.Value

instance : SettingsReader := ⟨Toml.read?⟩

variable [SettingsReader] [ColourCheck]

def readSettings (d : Disk) (path : String) : Except Failure Settings := do
  if !d.hasPath path then throw (.config (.missingFile path))
  let text ← (d.readText path).mapError .file
  match SettingsReader.read? text >>= Settings.ofValue? .toml with
  | none => throw (.config .malformed)
  | some settings =>
    match settings.problem? with
    | some problem => throw (.config (.invalid problem))
    | none => return settings

structure ConfigSource where
  path : String
  announcement : String

/-- The file with settings that is used: the one that is asked for, the one in the working
directory, or the one of the system, if the system has a place for it. -/
def configSource? (d : Disk) (systemConfig : Option String) (asked : Option String) :
    Option ConfigSource :=
  match asked with
  | some path => some ⟨path, "Loading configuration from explicit path"⟩
  | none =>
    if d.hasPath localConfig then
      some ⟨localConfig, "Loading configuration from local path"⟩
    else
      (systemConfig.filter d.hasPath).map fun path =>
        ⟨path, "Loading configuration from system path"⟩

/-- The settings of a run. Without a file they are the usual ones. -/
def loadSettings (d : Disk) (systemConfig : Option String) (asked : Option String) :
    Except Failure Settings :=
  match configSource? d systemConfig asked with
  | some source => readSettings d source.path
  | none => .ok {}

def loaded (s : Settings) : Record :=
  ⟨.debug, "Configuration loaded",
    [("direction", s.layout.direction.name),
      ("device_rules", Journal.count s.deviceRules.length),
      ("area_rules", Journal.count s.areaRules.length)]⟩

def missing : Option String → Record
  | some path => ⟨.debug, "System configuration file not found", [("path", path)]⟩
  | none => ⟨.debug, "Could not determine platform-specific config directory", []⟩

def loadRecords (d : Disk) (systemConfig : Option String) (asked : Option String) :
    List Record :=
  match configSource? d systemConfig asked with
  | none =>
    [missing systemConfig,
      ⟨.debug, "No configuration file found, using default configuration", []⟩]
  | some source =>
    ⟨.info, source.announcement, [("path", source.path)]⟩ ::
      match readSettings d source.path with
      | .ok settings => [loaded settings]
      | .error _ => []

/-! ## Plans -/

structure Output where
  path : String
  content : String
deriving DecidableEq, Repr

structure Plan where
  result : Except Failure (Option Output)
  records : List Record
  closing : List Record := []

def content (s : Settings) (t : Topology) : OutputFormat → Except Failure String
  | .json => .ok (Diagram.exportJson t)
  | .diagram format =>
    match Diagram.render s t format with
    | .ok document => .ok document.content
    | .error problem => .error (.config (.unusable problem))

/-- The plan for a text that is only checked. Its warnings and errors are written to the
journal. -/
def planCheck (text : String) : Plan :=
  let verdict := Diagram.validate text
  { result := if verdict.isValid then .ok none else .error (.text ⟨verdict.errors⟩)
    records := Journal.validate text ++
      (verdict.warnings ++ verdict.errors).map (fun d => ⟨d.severity.level, d.headline, []⟩) ++
      [⟨.info, "Validation finished",
        [("total_lines", Journal.count verdict.totalLines),
          ("valid_lines", Journal.count verdict.validLines),
          ("warnings", Journal.count verdict.warnings.length)]⟩] }

def contentRecords (s : Settings) (t : Topology) : OutputFormat → List Record
  | .json => []
  | .diagram format => Journal.render s t [format]

def planOutput (s : Settings) (a : Arguments) (text : String) : Plan :=
  let format := a.outputFormat
  let path := a.outputPath format
  let reading := Journal.parse s text
  match Diagram.parse s text with
  | .error e => { result := .error (.text e), records := reading }
  | .ok t =>
    { result := (content s t format).map fun content => some ⟨path, content⟩
      records := reading ++ contentRecords s t format
      closing :=
        [⟨.info, "Topology exported successfully",
          [("output_file", path), ("format", format.name)]⟩] }

def directed (s : Settings) (direction : Option Direction) : Settings :=
  direction.elim s s.withDirection

def plan (d : Disk) (systemConfig : Option String) (a : Arguments) : Plan :=
  let opening :=
    ⟨.info, "Processing topology", [("input_path", a.input)]⟩ ::
      loadRecords d systemConfig a.config
  match loadSettings d systemConfig a.config with
  | .error failure => { result := .error failure, records := opening }
  | .ok settings =>
    match d.readText a.input with
    | .error problem => { result := .error (.file problem), records := opening }
    | .ok text =>
      let rest :=
        if a.check then planCheck text
        else planOutput (directed settings a.direction) a text
      { rest with records := opening ++ rest.records }

/-! ## Runs -/

structure Outcome (σ : Type) where
  result : Except Failure Unit
  records : List Record
  files : σ

def run {σ : Type} [FileSystem σ] (files : σ) (systemConfig : Option String) (a : Arguments) :
    Outcome σ :=
  let plan := plan (FileSystem.disk files) systemConfig a
  match plan.result with
  | .error failure => ⟨.error failure, plan.records, files⟩
  | .ok none => ⟨.ok (), plan.records ++ plan.closing, files⟩
  | .ok (some output) =>
    match FileSystem.write files output.path output.content.toUTF8 with
    | .error problem => ⟨.error (.file problem), plan.records, files⟩
    | .ok written => ⟨.ok (), plan.records ++ plan.closing, written⟩

end NetDiagram.CommandLine
