import NetDiagram.Diagnostic
import NetDiagram.Topology.Basic

/-!
# Checking the connections of a topology

A connection is dangling if one of its ends is no component of the topology. A connection with two
known ends that are the same component is a self-loop. Both are reported and left as they are.
-/

namespace NetDiagram.Topology

def danglingWarning (c : Connection) : Diagnostic :=
  { severity := .warning
    message := "connection `" ++ c.id ++ "` refers to an unknown component"
    code := some .danglingReference
    help := some ("`" ++ c.source.text ++ "` -> `" ++ c.target.text ++ "` will not be drawn") }

def selfLoopWarning (c : Connection) : Diagnostic :=
  { severity := .warning
    message := "connection `" ++ c.id ++ "` connects `" ++ c.sourceName ++ "` to itself"
    code := some .selfLoop }

def warning? (t : Topology) (c : Connection) : Option Diagnostic :=
  if !t.resolves c then some (danglingWarning c)
  else if c.isSelfLoop then some (selfLoopWarning c)
  else none

def check (t : Topology) : List Diagnostic := t.connections.filterMap t.warning?

end NetDiagram.Topology
