import NetDiagram.Source.Survey
import NetDiagram.Topology.Basic

/-!
# Assembling a topology from statements

Endpoints are taken one after another in the order of writing. The first endpoint with an identity
declares a component and puts it into the tree, below groups that are opened when they are first
named; later ones only refer to it. So every list keeps the order of first appearance.
-/

namespace NetDiagram.Topology

/-! ## Putting a component into the tree -/

/-- Puts a component into the area it names, which is opened at the end if it is new. -/
def insertArea (c : Component) : List Area → List Area
  | [] => [⟨c.path.area, c.areaKind, [c.identity]⟩]
  | a :: as =>
    if a.name = c.path.area then { a with components := a.components ++ [c.identity] } :: as
    else a :: insertArea c as

def insertDatacenter (c : Component) : List Datacenter → List Datacenter
  | [] => [⟨c.path.datacenter, insertArea c []⟩]
  | d :: ds =>
    if d.name = c.path.datacenter then { d with areas := insertArea c d.areas } :: ds
    else d :: insertDatacenter c ds

def insertEnvironment (c : Component) : List Environment → List Environment
  | [] => [⟨c.path.environment, insertDatacenter c []⟩]
  | e :: es =>
    if e.name = c.path.environment then
      { e with datacenters := insertDatacenter c e.datacenters } :: es
    else e :: insertEnvironment c es

/-! ## Taking statements in -/

structure Draft where
  components : List Component := []
  environments : List Environment := []
  /-- The two ends of every statement. -/
  links : List (Identity × Identity) := []
deriving DecidableEq, Repr

def declare (classifier : Classifier) (path : Path) : Component :=
  { path
    kind := classifier.device path.device
    areaKind := classifier.area path.area }

namespace Draft

/-- Declares a component, unless one with its identity is there already. -/
def register (d : Draft) (c : Component) : Draft :=
  if d.components.any fun known => known.identity = c.identity then d
  else
    { d with
      components := d.components ++ [c]
      environments := insertEnvironment c d.environments }

def add (classifier : Classifier) (d : Draft) (s : Source.Statement) : Draft :=
  let source := declare classifier s.source.path
  let target := declare classifier s.target.path
  let declared := (d.register source).register target
  { declared with links := declared.links ++ [(source.identity, target.identity)] }

def component? (d : Draft) (id : Identity) : Option Component :=
  d.components.find? fun c => decide (c.identity = id)

/-- The connections, numbered from one. Both ends of every link have been declared. -/
def connections (d : Draft) : List Connection :=
  d.links.zipIdx.filterMap fun (link, index) => do
    let source ← d.component? link.1
    let target ← d.component? link.2
    return .between (index + 1) source target

end Draft

def ofStatements (name : String) (classifier : Classifier) (statements : List Source.Statement) :
    Topology :=
  let draft := statements.foldl (Draft.add classifier) {}
  ⟨name, draft.environments, draft.components, draft.connections⟩

def ofText (name : String) (classifier : Classifier) (text : String) :
    Except ParseError Topology := do
  let found ← Source.survey text.toList
  return ofStatements name classifier found.statements

end NetDiagram.Topology
