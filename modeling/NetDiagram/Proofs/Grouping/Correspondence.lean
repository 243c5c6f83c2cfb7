import Mathlib.Data.Finset.Card
import Mathlib.Data.Finset.Dedup
import NetDiagram.Proofs.Grouping.Connections

/-!
# Statements and connections

The topology of a text accounts for every statement. The statements become its connections, one by
one and in their order, and the ends of a connection are found again under the names that were
written. The identities that a survey of the text collects are those of the components, and the
counts of the topology are the numbers of different names in the text.

* `forall₂_joins`: the connections next to the statements.
* `identities_eq`: the identities of a survey.
* `statistics_eq`: the counts.
-/

namespace NetDiagram.Proofs.Grouping
open NetDiagram.Topology

variable {classifier : Classifier} {paths : List Path} {t : Topology}

/-! ## Connections -/

/-- An identity is looked up and found under the names of a path. -/
def ResolvesTo (t : Topology) (id : Identity) (p : Path) : Prop :=
  ∃ c ∈ t.components, t.component? id = some c ∧ c.path = p

/-- A connection is the one that the statement with the given number makes. -/
structure Joins (t : Topology) (numbered : Source.Statement × Nat) (c : Connection) : Prop where
  id : c.id = "conn_" ++ toString numbered.2
  source : c.source = numbered.1.source.path.identity
  target : c.target = numbered.1.target.path.identity
  sourceName : c.sourceName = numbered.1.source.path.device
  targetName : c.targetName = numbered.1.target.path.device
  sourceResolves : ResolvesTo t c.source numbered.1.source.path
  targetResolves : ResolvesTo t c.target numbered.1.target.path

theorem IsGrouping.resolvesTo (grouping : IsGrouping classifier paths t) {p : Path}
    (member : p ∈ paths) : ResolvesTo t p.identity p := by
  refine ⟨declare classifier p, ?_, grouping.component?_of_mem member, rfl⟩
  rw [grouping.components]
  exact List.mem_map_of_mem (List.mem_eraseDups.mpr member)

theorem forall₂_joins (name : String) (statements : List Source.Statement) :
    List.Forall₂ (Joins (ofStatements name classifier statements)) (statements.zipIdx 1)
      (ofStatements name classifier statements).connections := by
  have grouping : IsGrouping classifier _ (ofStatements name classifier statements) :=
    isGrouping_ofStatements name statements
  rw [connections_ofStatements, List.zipIdx_eq_map_add, List.forall₂_map_right_iff,
    List.forall₂_map_left_iff, List.forall₂_same]
  rintro ⟨s, index⟩ inside
  obtain ⟨source, target⟩ := paths_of_mem (List.fst_mem_of_mem_zipIdx inside)
  exact
    { id := congrArg (fun n => "conn_" ++ toString n) (Nat.add_comm index 1)
      source := rfl
      target := rfl
      sourceName := rfl
      targetName := rfl
      sourceResolves := grouping.resolvesTo source
      targetResolves := grouping.resolvesTo target }

/-! ## Identities -/

theorem identities_eq (name : String) (found : Source.Survey) :
    found.identities =
      (ofStatements name classifier found.statements).components.map (·.identity) := by
  have grouping : IsGrouping classifier _ (ofStatements name classifier found.statements) :=
    isGrouping_ofStatements name found.statements
  have injective : Path.identity.Injective := fun p q => Naming.identity_injective
  have paths : found.endpoints.map (·.path.identity) =
      (found.endpoints.map (·.path)).map Path.identity := by
    rw [List.map_map]
    rfl
  rw [Source.Survey.identities, paths, eraseDups_map injective, grouping.components, List.map_map]
  rfl

/-! ## Counts -/

theorem length_eraseDups {α : Type} [DecidableEq α] (l : List α) :
    l.eraseDups.length = l.toFinset.card := by
  rw [← List.toFinset_card_of_nodup (nodup_eraseDups l)]
  congr 1
  ext a
  simp

theorem mem_entries_iff_of_isGrouping (grouping : IsGrouping classifier paths t) {entry : Entry} :
    entry ∈ entries t.environments ↔
      ∃ p ∈ paths, entry = ⟨p.environment, p.datacenter, p.area, p.identity⟩ := by
  rw [grouping.entries.mem_iff, grouping.components, List.map_map, List.mem_map]
  simp only [List.mem_eraseDups]
  constructor
  · rintro ⟨p, member, rfl⟩
    exact ⟨p, member, rfl⟩
  · rintro ⟨p, member, rfl⟩
    exact ⟨p, member, rfl⟩

section Groups

variable {es : List Environment} {e : Environment} {d : Datacenter} {a : Area}

/-- In every group there is a component. -/
theorem exists_entry_area (groups : HasNoEmptyGroup es) (outer : e ∈ es)
    (middle : d ∈ e.datacenters) (inner : a ∈ d.areas) :
    ∃ id, Entry.mk e.name d.name a.name id ∈ entries es := by
  obtain ⟨id, inside⟩ := List.exists_mem_of_ne_nil _ (groups.areas e outer d middle a inner)
  exact ⟨id, mem_entries.mpr ⟨e, outer, d, middle, a, inner, id, inside, rfl⟩⟩

theorem exists_entry_datacenter (groups : HasNoEmptyGroup es) (outer : e ∈ es)
    (middle : d ∈ e.datacenters) :
    ∃ area id, Entry.mk e.name d.name area id ∈ entries es := by
  obtain ⟨a, inner⟩ := List.exists_mem_of_ne_nil _ (groups.datacenters e outer d middle)
  exact ⟨a.name, exists_entry_area groups outer middle inner⟩

theorem exists_entry_environment (groups : HasNoEmptyGroup es) (outer : e ∈ es) :
    ∃ datacenter area id, Entry.mk e.name datacenter area id ∈ entries es := by
  obtain ⟨d, middle⟩ := List.exists_mem_of_ne_nil _ (groups.environments e outer)
  exact ⟨d.name, exists_entry_datacenter groups outer middle⟩

end Groups

theorem IsGrouping.mem_names_environments (grouping : IsGrouping classifier paths t)
    (name : String) :
    name ∈ t.environments.map (·.name) ↔ name ∈ paths.map (·.environment) := by
  simp only [List.mem_map]
  constructor
  · rintro ⟨e, outer, rfl⟩
    obtain ⟨datacenter, area, id, held⟩ := exists_entry_environment grouping.groups outer
    obtain ⟨p, member, same⟩ := (mem_entries_iff_of_isGrouping grouping).mp held
    exact ⟨p, member, (congrArg Entry.environment same).symm⟩
  · rintro ⟨p, member, rfl⟩
    obtain ⟨e, outer, d, middle, a, inner, id, inside, same⟩ :=
      mem_entries.mp ((mem_entries_iff_of_isGrouping grouping).mpr ⟨p, member, rfl⟩)
    exact ⟨e, outer, (congrArg Entry.environment same).symm⟩

theorem IsGrouping.mem_names_datacenters (grouping : IsGrouping classifier paths t)
    (name : String) :
    name ∈ t.datacenters.map (·.name) ↔ name ∈ paths.map (·.datacenter) := by
  simp only [List.mem_map, Topology.datacenters, List.mem_flatMap]
  constructor
  · rintro ⟨d, ⟨e, outer, middle⟩, rfl⟩
    obtain ⟨area, id, held⟩ := exists_entry_datacenter grouping.groups outer middle
    obtain ⟨p, member, same⟩ := (mem_entries_iff_of_isGrouping grouping).mp held
    exact ⟨p, member, (congrArg Entry.datacenter same).symm⟩
  · rintro ⟨p, member, rfl⟩
    obtain ⟨e, outer, d, middle, a, inner, id, inside, same⟩ :=
      mem_entries.mp ((mem_entries_iff_of_isGrouping grouping).mpr ⟨p, member, rfl⟩)
    exact ⟨d, ⟨e, outer, middle⟩, (congrArg Entry.datacenter same).symm⟩

theorem IsGrouping.mem_names_areas (grouping : IsGrouping classifier paths t) (name : String) :
    name ∈ t.areas.map (·.name) ↔ name ∈ paths.map (·.area) := by
  simp only [List.mem_map, Topology.areas, Topology.datacenters, List.mem_flatMap]
  constructor
  · rintro ⟨a, ⟨d, ⟨e, outer, middle⟩, inner⟩, rfl⟩
    obtain ⟨id, held⟩ := exists_entry_area grouping.groups outer middle inner
    obtain ⟨p, member, same⟩ := (mem_entries_iff_of_isGrouping grouping).mp held
    exact ⟨p, member, (congrArg Entry.area same).symm⟩
  · rintro ⟨p, member, rfl⟩
    obtain ⟨e, outer, d, middle, a, inner, id, inside, same⟩ :=
      mem_entries.mp ((mem_entries_iff_of_isGrouping grouping).mpr ⟨p, member, rfl⟩)
    exact ⟨a, ⟨d, ⟨e, outer, middle⟩, inner⟩, (congrArg Entry.area same).symm⟩

theorem length_eraseDups_congr {α : Type} [DecidableEq α] {l l' : List α}
    (same : ∀ a, a ∈ l ↔ a ∈ l') : l.eraseDups.length = l'.toFinset.card := by
  rw [length_eraseDups]
  congr 1
  ext a
  simp [same]

def countsOf (statements : List Source.Statement) : Statistics :=
  let paths := (statements.flatMap (·.endpoints)).map (·.path)
  { environments := (paths.map (·.environment)).toFinset.card
    datacenters := (paths.map (·.datacenter)).toFinset.card
    areas := (paths.map (·.area)).toFinset.card
    components := paths.toFinset.card
    connections := statements.length }

theorem statistics_eq (name : String) (statements : List Source.Statement) :
    (ofStatements name classifier statements).statistics = countsOf statements := by
  have grouping : IsGrouping classifier _ (ofStatements name classifier statements) :=
    isGrouping_ofStatements name statements
  simp only [Topology.statistics, countsOf, Statistics.mk.injEq]
  refine ⟨?_, ?_, ?_, ?_, ?_⟩
  · exact length_eraseDups_congr grouping.mem_names_environments
  · exact length_eraseDups_congr grouping.mem_names_datacenters
  · exact length_eraseDups_congr grouping.mem_names_areas
  · rw [grouping.components, List.length_map, length_eraseDups]
  · rw [connections_ofStatements, List.length_map, List.length_zipIdx]

/-! ## The statement -/

/-- A topology accounts for all that a survey has found. -/
structure Records (found : Source.Survey) (t : Topology) : Prop where
  /-- The connections are numbered from one in the order of the statements. -/
  connections : List.Forall₂ (Joins t) (found.statements.zipIdx 1) t.connections
  identities : found.identities = t.components.map (·.identity)
  statistics : t.statistics = countsOf found.statements

theorem topology_records_statements {name text : String} {t : Topology}
    (parsed : Topology.ofText name classifier text = .ok t) :
    ∃ found, Source.survey text.toList = .ok found ∧ Records found t := by
  obtain ⟨some, rfl⟩ := ofText_eq_ok_iff.mp parsed
  refine ⟨_, Reading.survey_eq_ok_iff.mpr ⟨rfl, some⟩, ?_⟩
  exact
    { connections := forall₂_joins name _
      identities := identities_eq name _
      statistics := statistics_eq name _ }

/-- A connection of a device with itself, and one between two other devices, of which one has its
name in another environment. -/
def looped : String :=
  "【a】【1】的【z】【x】连接【a】【1】的【z】【x】\n【a】【1】的【z】【y】连接【b】【1】的【z】【x】"

theorem topology_of_looped :
    ∃ t, Topology.ofText "net" {} looped = .ok t ∧ t.statistics = ⟨2, 1, 1, 3, 2⟩ ∧
      t.connections.map (fun c => (c.id, c.source, c.target)) =
        [("conn_1", ⟨"a__1__z__x"⟩, ⟨"a__1__z__x"⟩), ("conn_2", ⟨"a__1__z__y"⟩, ⟨"b__1__z__x"⟩)] ∧
      ∃ found, Source.survey looped.toList = .ok found ∧ Records found t := by
  have seen : (Topology.ofText "net" {} looped).toOption.map (fun t =>
      (t.statistics, t.connections.map fun c => (c.id, c.source, c.target))) =
      some (⟨2, 1, 1, 3, 2⟩, [("conn_1", ⟨"a__1__z__x"⟩, ⟨"a__1__z__x"⟩),
        ("conn_2", ⟨"a__1__z__y"⟩, ⟨"b__1__z__x"⟩)]) := by decide +kernel
  obtain ⟨t, parsed, seen⟩ := exists_ofText seen
  obtain ⟨counts, connections⟩ := Prod.mk.inj seen
  exact ⟨t, parsed, counts, connections, topology_records_statements parsed⟩

end NetDiagram.Proofs.Grouping
