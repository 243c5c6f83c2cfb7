import NetDiagram.Direction
import NetDiagram.Document.Basic
import NetDiagram.Log

/-!
# Arguments of the command line

The words after the name of the program are read from left to right. An option takes its value from
the same word or from the next one; a value from the next word is only looked at when the word
after it has been recognised. Everything after two hyphens on their own is input.
-/

namespace NetDiagram.CommandLine

/-! ## Output formats -/

/-- What can be written: a diagram, or the topology itself. -/
inductive OutputFormat where
  | diagram (format : Format)
  | json
deriving DecidableEq, Repr

namespace OutputFormat

def name : OutputFormat → String
  | diagram format => format.name
  | json => "json"

/-- The usual ending of file names, without the dot. -/
def extension : OutputFormat → String
  | diagram format => format.extension
  | json => "json"

def format? : OutputFormat → Option Format
  | diagram format => some format
  | json => none

def ofName? : String → Option OutputFormat
  | "drawio" | "xml" => some (diagram .drawIo)
  | "mermaid" | "mmd" => some (diagram .mermaid)
  | "excalidraw" => some (diagram .excalidraw)
  | "json" => some json
  | _ => none

end OutputFormat

/-! ## Names of files -/

/-- The last name on a path, apart from names that stand for the place itself. -/
def fileName? (path : String) : Option (List Char) :=
  let names := (path.toList.splitOn '/').filter fun name => name ≠ [] ∧ name ≠ ['.']
  match names.getLast? with
  | none => none
  | some name => if name = ['.', '.'] then none else some name

def extension? (path : String) : Option String := do
  let name ← fileName? path
  let ending := name.reverse.takeWhile (· ≠ '.')
  if name.length ≤ ending.length + 1 then none else some (.ofList ending.reverse)

/-- The format that the ending of a file name stands for, in any mix of ASCII case. -/
def OutputFormat.ofPath? (path : String) : Option OutputFormat := do
  match (← extension? path).toLower with
  | "drawio" | "xml" => some (.diagram .drawIo)
  | "mmd" | "mermaid" => some (.diagram .mermaid)
  | "excalidraw" => some (.diagram .excalidraw)
  | "json" => some .json
  | _ => none

/-! ## Arguments -/

structure Arguments where
  input : String
  output : Option String
  format : Option OutputFormat
  direction : Option Direction
  config : Option String
  check : Bool
  logLevel : String
deriving DecidableEq, Repr

namespace Arguments

/-- The format to be written: the one that is asked for, else the one that the name of the output
stands for, else draw.io. -/
def outputFormat (a : Arguments) : OutputFormat :=
  (a.format <|> a.output.bind OutputFormat.ofPath?).getD (.diagram .drawIo)

def outputPath (a : Arguments) (format : OutputFormat) : String :=
  a.output.getD ("out." ++ format.extension)

/-- The records to be shown. An unknown level stands for warnings. -/
def threshold (a : Arguments) : Log.Threshold :=
  (Log.Threshold.ofName? a.logLevel).getD (some .warn)

end Arguments

inductive UsageError where
  | helpWanted
  | versionWanted
  | unknownArgument
  | invalidValue
  | repeated
  | unwantedValue
  | unreadableValue
  | noInput
deriving DecidableEq, Repr

def UsageError.name : UsageError → String
  | helpWanted => "DisplayHelp"
  | versionWanted => "DisplayVersion"
  | unknownArgument => "UnknownArgument"
  | invalidValue => "InvalidValue"
  | repeated => "ArgumentConflict"
  | unwantedValue => "TooManyValues"
  | unreadableValue => "ValueValidation"
  | noInput => "MissingRequiredArgument"

/-! ## Reading words -/

inductive Setting where
  | output
  | format
  | direction
  | config
  | logLevel
deriving DecidableEq, Repr

inductive Flag where
  | check
  | help
  | version
deriving DecidableEq, Repr

inductive Switch where
  | setting (setting : Setting)
  | flag (flag : Flag)
deriving DecidableEq, Repr

def Switch.ofLong? : String → Option Switch
  | "output" => some (.setting .output)
  | "format" => some (.setting .format)
  | "direction" => some (.setting .direction)
  | "config" => some (.setting .config)
  | "log-level" => some (.setting .logLevel)
  | "check" => some (.flag .check)
  | "help" => some (.flag .help)
  | "version" => some (.flag .version)
  | _ => none

def Switch.ofShort? : Char → Option Switch
  | 'o' => some (.setting .output)
  | 'f' => some (.setting .format)
  | 'd' => some (.setting .direction)
  | 'c' => some (.setting .config)
  | 'h' => some (.flag .help)
  | 'V' => some (.flag .version)
  | _ => none

inductive Word where
  | separator
  /-- A name after two hyphens, with the value after an equals sign. -/
  | long (name : String) (value : Option String)
  /-- A letter after one hyphen, with the rest of the word. -/
  | short (letter : Char) (rest : List Char)
  | plain
deriving DecidableEq, Repr

/-- Looks at a word. A hyphen on its own is an ordinary word. -/
def Word.ofString (word : String) : Word :=
  match word.toList with
  | ['-', '-'] => separator
  | '-' :: '-' :: cs =>
    let name := cs.takeWhile (· ≠ '=')
    match cs.drop name.length with
    | [] => long (.ofList name) none
    | _ :: value => long (.ofList name) (some (.ofList value))
  | '-' :: c :: cs => short c cs
  | _ => plain

structure Draft where
  input : Option String := none
  output : Option String := none
  format : Option OutputFormat := none
  direction : Option Direction := none
  config : Option String := none
  check : Bool := false
  logLevel : Option String := none
  /-- An option whose value has not been looked at, and the value if it is there. -/
  pending : Option (Setting × Option String) := none
deriving DecidableEq, Repr

namespace Draft

/-- Fills a place that has to be empty. -/
def once {β : Type} (place : Option β) (value : Except UsageError β) :
    Except UsageError (Option β) :=
  match place with
  | some _ => .error .repeated
  | none => value.map some

def assign (d : Draft) (value : String) : Setting → Except UsageError Draft
  | .output => return { d with output := ← once d.output (.ok value) }
  | .format => do
    let read := (OutputFormat.ofName? value).elim (.error .invalidValue) .ok
    return { d with format := ← once d.format read }
  | .direction => do
    let read := (Direction.ofText? value).elim (.error .unreadableValue) .ok
    return { d with direction := ← once d.direction read }
  | .config => return { d with config := ← once d.config (.ok value) }
  | .logLevel => return { d with logLevel := ← once d.logLevel (.ok value) }

def settle (d : Draft) : Except UsageError Draft :=
  match d.pending with
  | none => .ok d
  | some (_, none) => .error .invalidValue
  | some (setting, some value) => { d with pending := none }.assign value setting

def takeSetting (d : Draft) (setting : Setting) (value : Option String) :
    Except UsageError Draft := do
  let d ← d.settle
  match value with
  | some value => d.assign value setting
  | none => return { d with pending := some (setting, none) }

def takeFlag (d : Draft) (flag : Flag) : Except UsageError Draft := do
  let d ← d.settle
  match flag with
  | .check => if d.check then throw .repeated else return { d with check := true }
  | .help => throw .helpWanted
  | .version => throw .versionWanted

def takeLong (d : Draft) (name : String) (value : Option String) : Except UsageError Draft :=
  match Switch.ofLong? name with
  | none => .error .unknownArgument
  | some (.setting setting) => d.takeSetting setting value
  | some (.flag flag) => if value.isSome then .error .unwantedValue else d.takeFlag flag

/-- Takes a switch with a short name. What follows an option in the word is its value, with or
without an equals sign before it. No flag with a short name lets the reading go on. -/
def takeShort (d : Draft) (letter : Char) (rest : List Char) : Except UsageError Draft :=
  match Switch.ofShort? letter with
  | none => .error .unknownArgument
  | some (.setting setting) =>
    d.takeSetting setting (match rest with
      | [] => none
      | '=' :: value => some (.ofList value)
      | value => some (.ofList value))
  | some (.flag flag) => d.takeFlag flag

def takeInput (d : Draft) (word : String) : Except UsageError Draft :=
  match d.input with
  | some _ => .error .unknownArgument
  | none => do return { ← d.settle with input := some word }

/-- Takes a word that is no switch: the value of the option before it, or the input. -/
def takePlain (d : Draft) (word : String) : Except UsageError Draft :=
  match d.pending with
  | some (setting, none) => .ok { d with pending := some (setting, some word) }
  | _ => d.takeInput word

/-- Takes words, of which the first may be a switch. -/
def take (d : Draft) : List String → Except UsageError Draft
  | [] => d.settle
  | word :: words =>
    match Word.ofString word with
    | .separator => do (← words.foldlM takeInput d).settle
    | .long name value => do (← d.takeLong name value).take words
    | .short letter rest => do (← d.takeShort letter rest).take words
    | .plain => do (← d.takePlain word).take words

end Draft

def Arguments.ofWords (words : List String) : Except UsageError Arguments := do
  let d ← ({} : Draft).take words
  match d.input with
  | none => throw .noInput
  | some input =>
    return {
      input
      output := d.output
      format := d.format
      direction := d.direction
      config := d.config
      check := d.check
      logLevel := d.logLevel.getD "info" }

end NetDiagram.CommandLine
