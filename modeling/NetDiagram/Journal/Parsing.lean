import NetDiagram.Diagram
import NetDiagram.Log

/-!
# The journal of reading a text

The records that are written while a text is read: one for each line that matters, one for each
name that is sorted, and the totals. They follow from the text and from what has been found in it.
-/

namespace NetDiagram.Journal

open Log (Record)
open Source (Finding Line Survey)

def count (n : Nat) : String := toString n

def unterminated (place : Span) : Record :=
  ⟨.trace, "Unterminated bracket", [("start", count place.start), ("end", count place.stop)]⟩

def line : Line × Finding → List Record
  | (_, .blank) => []
  | (l, .prose) => [⟨.trace, "Skipping line without connector", [("offset", count l.offset)]⟩]
  | (_, .statement found unclosed) =>
    unclosed.map unterminated ++
      [⟨.trace, "Matched connection statement",
        [("source", found.source.path.device), ("target", found.target.path.device)]⟩]
  | (_, .malformed _ unclosed) => unclosed.map unterminated

def survey (found : Survey) : List Record :=
  found.findings.flatMap line ++
    [⟨.debug, "Extraction finished",
      [("total_lines", count found.totalLines), ("candidate_lines", count found.candidateLines),
        ("valid_lines", count found.validLines)]⟩]

def code (d : Diagnostic) : String × String :=
  ("code", match d.code with
    | some code => "Some(" ++ code.name ++ ")"
    | none => "None")

def classified (name kind : String) : Record :=
  ⟨.trace, "Classified name", [("name", name), ("kind", kind)]⟩

def endpoints (classifier : Classifier) (known : List Identity) : List Path → List Record
  | [] => []
  | path :: paths =>
    let c := Topology.declare classifier path
    let sorted := [classified path.device c.kind.tag, classified path.area c.areaKind.tag]
    if known.contains c.identity then sorted ++ endpoints classifier known paths
    else
      sorted ++
        ⟨.trace, "New component", [("id", c.identity.text), ("device_type", c.kind.name)]⟩ ::
        endpoints classifier (c.identity :: known) paths

def statistics (s : Topology.Statistics) : List (String × String) :=
  [("environments", count s.environments), ("datacenters", count s.datacenters),
    ("areas", count s.areas), ("components", count s.components),
    ("connections", count s.connections)]

def assembly (classifier : Classifier) (found : Survey) (t : Topology) : List Record :=
  endpoints classifier [] (found.endpoints.map (·.path)) ++
    t.areas.map (fun a => classified a.name (classifier.area a.name).tag) ++
    [⟨.debug, "Topology built", statistics t.statistics⟩]

def parseNamed (name : String) (classifier : Classifier) (text : String) : List Record :=
  let found := Survey.ofText text.toList
  ⟨.info, "Parsing topology text", [("bytes", count text.utf8ByteSize)]⟩ ::
    survey found ++
    match Topology.ofText name classifier text with
    | .error _ => []
    | .ok t =>
      found.warnings.map (fun d => ⟨.warn, d.message, [code d]⟩) ++ assembly classifier found t

def check (t : Topology) : List Record :=
  t.connections.filterMap fun c =>
    (t.warning? c).map fun _ =>
      let message :=
        if t.resolves c then "Self-loop connection" else "Dangling connection reference"
      ⟨.warn, message, [("connection", c.id)]⟩

/-- A text that is read under the usual name, and then checked. -/
def parse (s : Settings) (text : String) : List Record :=
  ⟨.info, "Parsing topology", []⟩ ::
    parseNamed Topology.defaultName s.classifier text ++
    match Diagram.parse s text with
    | .error _ => []
    | .ok t =>
      ⟨.debug, "Topology parsed successfully", statistics t.statistics⟩ ::
        check t ++ t.check.map fun d => ⟨.debug, d.message, [code d]⟩

def validate (text : String) : List Record :=
  ⟨.info, "Validating topology text", []⟩ :: survey (Survey.ofText text.toList)

end NetDiagram.Journal
