import NetDiagram.CommandLine.Run

/-!
# The program

Reads the files that a run can need, follows the plan of the run, and writes its output. The journal
and the reports on a failure go to the error stream.
-/

namespace NetDiagram.CommandLine

def fileProblem : IO.Error → FileProblem
  | .noFileOrDirectory .. => .notFound
  | .inappropriateType .. => .isADirectory
  | .invalidArgument .. => .invalidName
  | _ => .other

def readFile (path : String) : IO (Except FileProblem ByteArray) := do
  try
    return .ok (← IO.FS.readBinFile path)
  catch e =>
    return .error (fileProblem e)

def readFiles (paths : List String) : IO Disk := do
  let contents ← paths.mapM fun path => return (path, ← readFile path)
  return ⟨fun path => (contents.lookup path).getD (.error .notFound)⟩

/-- The file with the settings of the system. Without a home directory there is none. -/
def systemConfig : IO (Option String) := do
  let some home ← IO.getEnv "HOME" | return none
  let asked := (← IO.getEnv "XDG_CONFIG_HOME").filter (·.startsWith "/")
  return some (asked.getD (home ++ "/.config") ++ "/topofac/config.toml")

def recordLine (r : Log.Record) : String :=
  r.level.name ++ " " ++ r.message ++
    String.join (r.values.map fun (name, value) => " " ++ name ++ "=" ++ value)

def reportLines (r : Report) : List String :=
  let code := match r.code with
    | some code => "[" ++ code ++ "] "
    | none => ""
  (code ++ r.display) ::
    r.labels.map (fun l =>
      "  " ++ toString l.span.start ++ ".." ++ toString l.span.stop ++ ": " ++ l.message) ++
    (r.help.map ("  help: " ++ ·)).toList

def writeOutput (plan : Plan) : IO (Except Failure Unit) := do
  match plan.result with
  | .error failure => return .error failure
  | .ok none => return .ok ()
  | .ok (some output) =>
    try
      IO.FS.writeFile output.path output.content
      return .ok ()
    catch e =>
      return .error (.file (fileProblem e))

def runProgram (a : Arguments) : IO UInt32 := do
  let system ← systemConfig
  let disk ← readFiles ([a.input, localConfig] ++ system.toList ++ a.config.toList)
  let plan := plan disk system a
  let result ← writeOutput plan
  let closing := match result with
    | .ok () => plan.closing
    | .error _ => []
  for r in Log.shown a.threshold (plan.records ++ closing) do
    IO.eprintln (recordLine r)
  match result with
  | .ok () => return 0
  | .error failure =>
    for r in failure.reports do
      for line in reportLines r do
        IO.eprintln line
    return 1

def usage : String :=
  "Usage: topofac [OPTIONS] <INPUT>\n\n" ++
  "  -o, --output <FILE>\n" ++
  "  -f, --format <drawio|mermaid|excalidraw|json>\n" ++
  "  -d, --direction <lr|tb>\n" ++
  "  -c, --config <FILE>\n" ++
  "      --check\n" ++
  "      --log-level <off|error|warn|info|debug|trace>\n" ++
  "  -h, --help\n" ++
  "  -V, --version"

end NetDiagram.CommandLine

open NetDiagram.CommandLine in
def main (words : List String) : IO UInt32 := do
  match Arguments.ofWords words with
  | .ok a => runProgram a
  | .error .helpWanted =>
    IO.println usage
    return 0
  | .error .versionWanted =>
    IO.println "topofac 0.1.0"
    return 0
  | .error e =>
    IO.eprintln ("error: " ++ e.name)
    IO.eprintln usage
    return 2
