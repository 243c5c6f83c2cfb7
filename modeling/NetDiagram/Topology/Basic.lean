import NetDiagram.Classification
import NetDiagram.Path

/-!
# Topologies

A topology is a tree of environments, datacenters and areas, a list of components, and a list of
connections between components. The tree and the connections name components by their identities.
Nothing is checked when a topology is put together: an identity may be named that no component
has, and two components may share one. Looking up an identity finds the last component that has it.
-/

namespace NetDiagram

structure Component where
  path : Path
  kind : DeviceKind
  /-- The kind of the area that the device is in. -/
  areaKind : AreaKind
  identity : Identity := path.identity
  identity_eq : identity = path.identity := by rfl
deriving DecidableEq, Repr

namespace Component

def name (c : Component) : String := c.path.device

end Component

structure Area where
  name : String
  kind : AreaKind
  components : List Identity
deriving DecidableEq, Repr

structure Datacenter where
  name : String
  areas : List Area
deriving DecidableEq, Repr

structure Environment where
  name : String
  datacenters : List Datacenter
deriving DecidableEq, Repr

structure Connection where
  /-- The place among the connections of the text, from one. -/
  number : Nat
  source : Identity
  target : Identity
  sourceName : String
  targetName : String
deriving DecidableEq, Repr

namespace Connection

def between (number : Nat) (source target : Component) : Connection where
  number
  source := source.identity
  target := target.identity
  sourceName := source.name
  targetName := target.name

def id (c : Connection) : String := "conn_" ++ toString c.number

def description (c : Connection) : String := c.sourceName ++ " 连接 " ++ c.targetName

def isSelfLoop (c : Connection) : Bool := c.source = c.target

end Connection

structure Topology where
  name : String
  environments : List Environment
  components : List Component
  connections : List Connection
deriving DecidableEq, Repr

namespace Topology

def defaultName : String := "解析的网络拓扑"

def empty (name : String) : Topology := ⟨name, [], [], []⟩

def isEmpty (t : Topology) : Bool := t.components.isEmpty

/-- The component with the given identity, the last one if there are several. -/
def component? (t : Topology) (id : Identity) : Option Component :=
  t.components.findRev? fun c => decide (c.identity = id)

def resolves (t : Topology) (c : Connection) : Bool :=
  (t.component? c.source).isSome && (t.component? c.target).isSome

def datacenters (t : Topology) : List Datacenter := t.environments.flatMap (·.datacenters)

def areas (t : Topology) : List Area := t.datacenters.flatMap (·.areas)

/-- How much there is in a topology. Groups count by name: two that share a name count once, even
in different places. -/
structure Statistics where
  environments : Nat
  datacenters : Nat
  areas : Nat
  components : Nat
  connections : Nat
deriving DecidableEq, Repr

def statistics (t : Topology) : Statistics where
  environments := (t.environments.map (·.name)).eraseDups.length
  datacenters := (t.datacenters.map (·.name)).eraseDups.length
  areas := (t.areas.map (·.name)).eraseDups.length
  components := t.components.length
  connections := t.connections.length

end Topology

end NetDiagram
