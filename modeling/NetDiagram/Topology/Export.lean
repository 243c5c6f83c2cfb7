import NetDiagram.Json
import NetDiagram.Topology.Basic

/-!
# Topologies as JSON

A topology with all that is derived from it: identities, kinds, full names and counts.
-/

namespace NetDiagram

def Component.json (c : Component) : Json :=
  .object [
    ("id", .string c.identity.text),
    ("name", .string c.name),
    ("device_type", .string c.kind.name),
    ("environment", .string c.path.environment),
    ("datacenter", .string c.path.datacenter),
    ("area", .string c.path.area),
    ("area_type", .string c.areaKind.name),
    ("full_path", .string c.path.fullName)]

def Area.json (a : Area) : Json :=
  .object [
    ("name", .string a.name),
    ("area_type", .string a.kind.name),
    ("components", .strings (a.components.map (·.text)))]

def Datacenter.json (d : Datacenter) : Json :=
  .object [("name", .string d.name), ("areas", .list (d.areas.map (·.json)))]

def Environment.json (e : Environment) : Json :=
  .object [("name", .string e.name), ("datacenters", .list (e.datacenters.map (·.json)))]

def Connection.json (c : Connection) : Json :=
  .object [
    ("id", .string c.id),
    ("source", .string c.source.text),
    ("target", .string c.target.text),
    ("source_name", .string c.sourceName),
    ("target_name", .string c.targetName),
    ("kind", .string "network"),
    ("description", .string c.description)]

namespace Topology

def Statistics.json (s : Statistics) : Json :=
  .object [
    ("environments", .nat s.environments),
    ("datacenters", .nat s.datacenters),
    ("areas", .nat s.areas),
    ("components", .nat s.components),
    ("connections", .nat s.connections)]

def json (t : Topology) : Json :=
  .object [
    ("name", .string t.name),
    ("environments", .list (t.environments.map (·.json))),
    ("components", .list (t.components.map (·.json))),
    ("connections", .list (t.connections.map (·.json))),
    ("statistics", t.statistics.json)]

end Topology

end NetDiagram
