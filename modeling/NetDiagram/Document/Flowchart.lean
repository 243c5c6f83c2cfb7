import NetDiagram.Document.Basic
import NetDiagram.Layout.Box
import NetDiagram.Topology.Basic

/-!
# Flowcharts for Mermaid

A flowchart is a list of lines. Every group of a layout becomes a block of lines, nested like the
groups, and every known component a line in the block of its area. A connection within one
datacenter stands at the end of the block of that datacenter, and all others stand after the last
block, so a line never refers to a component that has not been declared above. The flowchart is
made in steps: each step either writes a line or leaves something out.
-/

namespace NetDiagram.Flowchart

/-! ## Lines -/

/-- The place of a block: the position of each group in the one around it, outermost first. -/
abbrev BlockPath := List Nat

def blockId (path : BlockPath) : String :=
  "sg" ++ String.join (path.map fun position => "_n" ++ toString position)

/-- The form of one character in a label. The two characters that end a label become codes. -/
def escapeChar (c : Char) : List Char :=
  if c = '"' then "#quot;".toList
  else if c = '|' then "#124;".toList
  else [c]

def escapeLabel (s : String) : String := .ofList (s.toList.flatMap escapeChar)

inductive Line where
  | opening (path : BlockPath) (label : String)
  /-- Closes a block that has the given number of blocks around it. -/
  | closing (depth : Nat)
  | node (component : Component)
  /-- A connection in a place that has the given number of blocks around it. -/
  | edge (depth : Nat) (connection : Connection)
deriving DecidableEq, Repr

namespace Line

def depth : Line → Nat
  | opening path _ => path.length - 1
  | closing depth => depth
  | node _ => 3
  | edge depth _ => depth

/-- The line without indentation. An empty description is no label. -/
def body : Line → String
  | opening path label => "subgraph " ++ blockId path ++ "[\"" ++ escapeLabel label ++ "\"]"
  | closing _ => "end"
  | node c =>
    c.identity.text ++ "[\"" ++ escapeLabel c.name ++ "\"]:::" ++ c.kind.appearance.name
  | edge _ c =>
    if c.description.isEmpty then c.source.text ++ " --> " ++ c.target.text
    else c.source.text ++ " -->|" ++ escapeLabel c.description ++ "| " ++ c.target.text

def text (l : Line) : String := .ofList (List.replicate (2 * l.depth) ' ') ++ l.body

end Line

/-! ## Steps -/

inductive Step where
  | write (line : Line)
  /-- A box of an unknown component is left out. -/
  | skip (id : Identity)
  /-- A connection with an end that is not declared is left out. -/
  | drop (connection : Connection)
deriving DecidableEq, Repr

namespace Step

def line? : Step → Option Line
  | write line => some line
  | _ => none

def component? : Step → Option Component
  | write (.node c) => some c
  | _ => none

def edge? : Step → Option Connection
  | write (.edge _ c) => some c
  | _ => none

def dropped? : Step → Option Connection
  | drop c => some c
  | _ => none

end Step

def declared (steps : List Step) : List Identity :=
  steps.filterMap fun s => s.component?.map (·.identity)

/-! ## Drawing a layout -/

/-- The environment and the datacenter of both ends of a connection, if they share them. -/
def site? (t : Topology) (c : Connection) : Option (String × String) := do
  let source := (← t.component? c.source).path
  let target := (← t.component? c.target).path
  if source.environment = target.environment ∧ source.datacenter = target.datacenter then
    some (source.environment, source.datacenter)
  else none

abbrev Sited := Connection × Option (String × String)

def sited (t : Topology) : List Sited := t.connections.map fun c => (c, site? t c)

def connectionsWithin (environment datacenter : String) (connections : List Sited) :
    List Connection :=
  (connections.filter fun c => c.2 = some (environment, datacenter)).map (·.1)

def connectionsBetween (connections : List Sited) : List Connection :=
  (connections.filter (·.2.isNone)).map (·.1)

/-- Writes a connection, if both ends are among the declared identities. -/
def edgeStep (known : List Identity) (depth : Nat) (c : Connection) : Step :=
  if known.contains c.source && known.contains c.target then .write (.edge depth c) else .drop c

def nodeStep (t : Topology) (id : Identity) : Step :=
  match t.component? id with
  | some c => .write (.node c)
  | none => .skip id

variable {α : Type}

def areaSteps (t : Topology) (path : BlockPath) (a : Layout.AreaBox α) : List Step :=
  .write (.opening path a.name) ::
    (a.components.map fun b => nodeStep t b.id) ++ [.write (.closing 2)]

def areasSteps (t : Topology) (path : BlockPath) (d : Layout.DatacenterBox α) : List Step :=
  d.areas.zipIdx.flatMap fun (a, position) => areaSteps t (path ++ [position]) a

/-- The block of a datacenter, after some identities have been declared. -/
def datacenterSteps (t : Topology) (connections : List Sited) (environment : String)
    (known : List Identity) (path : BlockPath) (d : Layout.DatacenterBox α) : List Step :=
  let areas := areasSteps t path d
  let known := known ++ declared areas
  let edges := (connectionsWithin environment d.name connections).map (edgeStep known 2)
  .write (.opening path d.name) :: areas ++ edges ++ [.write (.closing 1)]

def datacentersSteps (t : Topology) (connections : List Sited) (environment : String)
    (known : List Identity) (outer : BlockPath) (position : Nat) :
    List (Layout.DatacenterBox α) → List Step
  | [] => []
  | d :: ds =>
    let steps := datacenterSteps t connections environment known (outer ++ [position]) d
    let known := known ++ declared steps
    steps ++ datacentersSteps t connections environment known outer (position + 1) ds

def environmentSteps (t : Topology) (connections : List Sited) (known : List Identity)
    (path : BlockPath) (e : Layout.EnvironmentBox α) : List Step :=
  .write (.opening path e.name) ::
    datacentersSteps t connections e.name known path 0 e.datacenters ++ [.write (.closing 0)]

def environmentsSteps (t : Topology) (connections : List Sited) (known : List Identity)
    (position : Nat) : List (Layout.EnvironmentBox α) → List Step
  | [] => []
  | e :: es =>
    let steps := environmentSteps t connections known [position] e
    steps ++ environmentsSteps t connections (known ++ declared steps) (position + 1) es

def steps (t : Topology) (l : Layout α) : List Step :=
  let connections := sited t
  let blocks := environmentsSteps t connections [] 0 l.environments
  blocks ++ (connectionsBetween connections).map (edgeStep (declared blocks) 0)

def stats (steps : List Step) : Document.Stats where
  components := (steps.filterMap (·.component?)).length
  connections := (steps.filterMap (·.edge?)).length
  dropped := (steps.filterMap (·.dropped?)).length

/-! ## Text -/

def Appearance.line (look : Appearance) : String :=
  "classDef " ++ look.name ++ " stroke:" ++ look.stroke ++ ",stroke-width:"
    ++ toString look.strokeWidth ++ "px,color:" ++ look.font ++ ";"

def header (direction : Direction) : List String :=
  ("flowchart " ++ direction.keyword) ::
    DeviceKind.all.map fun kind => Appearance.line kind.appearance

def placeholderLine : String := "empty[\"" ++ Document.placeholder ++ "\"]:::unknown"

/-- Lines as a text. Every line ends in a line feed. -/
def unlines (lines : List String) : String := String.join (lines.map (· ++ "\n"))

def render (t : Topology) (l : Layout α) : Document :=
  if t.isEmpty || l.isEmpty then
    { format := .mermaid
      content := unlines (header l.direction ++ [placeholderLine])
      stats := {} }
  else
    let steps := Flowchart.steps t l
    { format := .mermaid
      content := unlines (header l.direction ++ steps.filterMap fun s => s.line?.map (·.text))
      stats := stats steps }

end NetDiagram.Flowchart
