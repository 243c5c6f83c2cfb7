import NetDiagram.Proofs.Grouping.FirstAppearance
import NetDiagram.Topology.Assembly

/-!
# Trees of paths

The tree that some paths describe is made by grouping: the paths by their environments, those of
one environment by their datacenters, and those of one datacenter by their areas. Putting a
component into a tree alters one group on each level, and the tree of the paths stays the tree of
the paths.

* `environmentsOf_append_of_not_mem`: one more path puts one more component into the tree.
* `entries_insertEnvironment_perm`: a component that is put into a tree is all that the tree gains.
-/

namespace NetDiagram.Proofs.Grouping
open NetDiagram.Topology

variable {classifier : Classifier} {paths : List Path} {p : Path}

/-! ## The tree -/

def areasOf (classifier : Classifier) : List Path → List Area :=
  groups (·.area) fun name paths =>
    ⟨name, classifier.area name, paths.eraseDups.map (·.identity)⟩

def datacentersOf (classifier : Classifier) : List Path → List Datacenter :=
  groups (·.datacenter) fun name paths => ⟨name, areasOf classifier paths⟩

def environmentsOf (classifier : Classifier) : List Path → List Environment :=
  groups (·.environment) fun name paths => ⟨name, datacentersOf classifier paths⟩

/-! ## Putting a component into the tree -/

theorem insertArea_eq_alter (c : Component) (as : List Area) :
    insertArea c as =
      alter (·.name) c.path.area (fun a => { a with components := a.components ++ [c.identity] })
        ⟨c.path.area, c.areaKind, [c.identity]⟩ as := by
  induction as with
  | nil => rfl
  | cons a as ih => rw [insertArea, alter, ih]

theorem insertDatacenter_eq_alter (c : Component) (ds : List Datacenter) :
    insertDatacenter c ds =
      alter (·.name) c.path.datacenter (fun d => { d with areas := insertArea c d.areas })
        ⟨c.path.datacenter, insertArea c []⟩ ds := by
  induction ds with
  | nil => rfl
  | cons d ds ih => rw [insertDatacenter, alter, ih]

theorem insertEnvironment_eq_alter (c : Component) (es : List Environment) :
    insertEnvironment c es =
      alter (·.name) c.path.environment
        (fun e => { e with datacenters := insertDatacenter c e.datacenters })
        ⟨c.path.environment, insertDatacenter c []⟩ es := by
  induction es with
  | nil => rfl
  | cons e es ih => rw [insertEnvironment, alter, ih]

/-! ## One more path -/

theorem mem_filter_self {key : Path → String} (known : p ∈ paths) :
    p ∈ paths.filter fun q => key q = key p := by
  simp [known]

theorem not_mem_filter {key : Path → String} {k : String} (new : p ∉ paths) :
    p ∉ paths.filter fun q => key q = k :=
  fun inside => new (List.mem_filter.mp inside).1

theorem areasOf_append_of_mem (known : p ∈ paths) :
    areasOf classifier (paths ++ [p]) = areasOf classifier paths := by
  refine groups_append_of_mem known ?_
  rw [eraseDups_append_of_mem (mem_filter_self known)]

theorem datacentersOf_append_of_mem (known : p ∈ paths) :
    datacentersOf classifier (paths ++ [p]) = datacentersOf classifier paths := by
  refine groups_append_of_mem known ?_
  rw [areasOf_append_of_mem (mem_filter_self known)]

theorem environmentsOf_append_of_mem (known : p ∈ paths) :
    environmentsOf classifier (paths ++ [p]) = environmentsOf classifier paths := by
  refine groups_append_of_mem known ?_
  rw [datacentersOf_append_of_mem (mem_filter_self known)]

theorem areasOf_append_of_not_mem (new : p ∉ paths) :
    areasOf classifier (paths ++ [p]) =
      insertArea (declare classifier p) (areasOf classifier paths) := by
  rw [insertArea_eq_alter]
  refine groups_append_of_not_mem (fun _ _ => rfl) ?_ rfl
  rw [eraseDups_append_of_not_mem (not_mem_filter new), List.map_append]
  rfl

theorem datacentersOf_append_of_not_mem (new : p ∉ paths) :
    datacentersOf classifier (paths ++ [p]) =
      insertDatacenter (declare classifier p) (datacentersOf classifier paths) := by
  rw [insertDatacenter_eq_alter]
  refine groups_append_of_not_mem (fun _ _ => rfl) ?_ ?_
  · rw [areasOf_append_of_not_mem (not_mem_filter new)]
  · rw [← List.nil_append [p], areasOf_append_of_not_mem List.not_mem_nil]
    rfl

theorem environmentsOf_append_of_not_mem (new : p ∉ paths) :
    environmentsOf classifier (paths ++ [p]) =
      insertEnvironment (declare classifier p) (environmentsOf classifier paths) := by
  rw [insertEnvironment_eq_alter]
  refine groups_append_of_not_mem (fun _ _ => rfl) ?_ ?_
  · rw [datacentersOf_append_of_not_mem (not_mem_filter new)]
  · rw [← List.nil_append [p], datacentersOf_append_of_not_mem List.not_mem_nil]
    rfl

/-! ## What a tree holds -/

structure Entry where
  environment : String
  datacenter : String
  area : String
  component : Identity
deriving DecidableEq, Repr

def Entry.ofComponent (c : Component) : Entry :=
  ⟨c.path.environment, c.path.datacenter, c.path.area, c.identity⟩

def areaEntries (environment datacenter : String) (a : Area) : List Entry :=
  a.components.map fun id => ⟨environment, datacenter, a.name, id⟩

def datacenterEntries (environment : String) (d : Datacenter) : List Entry :=
  d.areas.flatMap (areaEntries environment d.name)

def environmentEntries (e : Environment) : List Entry :=
  e.datacenters.flatMap (datacenterEntries e.name)

def entries (es : List Environment) : List Entry := es.flatMap environmentEntries

theorem mem_entries {es : List Environment} {entry : Entry} :
    entry ∈ entries es ↔ ∃ e ∈ es, ∃ d ∈ e.datacenters, ∃ a ∈ d.areas, ∃ id ∈ a.components,
      entry = ⟨e.name, d.name, a.name, id⟩ := by
  simp [entries, environmentEntries, datacenterEntries, areaEntries, eq_comm]

theorem entries_insertArea_perm (c : Component) (as : List Area) :
    ((insertArea c as).flatMap (areaEntries c.path.environment c.path.datacenter)).Perm
      (as.flatMap (areaEntries c.path.environment c.path.datacenter) ++ [.ofComponent c]) := by
  rw [insertArea_eq_alter]
  refine flatMap_alter_perm (fun a _ here => ?_) rfl
  simp [areaEntries, Entry.ofComponent, here]

theorem entries_insertDatacenter_perm (c : Component) (ds : List Datacenter) :
    ((insertDatacenter c ds).flatMap (datacenterEntries c.path.environment)).Perm
      (ds.flatMap (datacenterEntries c.path.environment) ++ [.ofComponent c]) := by
  rw [insertDatacenter_eq_alter]
  refine flatMap_alter_perm (fun d _ here => ?_) rfl
  simp only [datacenterEntries, here]
  exact entries_insertArea_perm c d.areas

theorem entries_insertEnvironment_perm (c : Component) (es : List Environment) :
    (entries (insertEnvironment c es)).Perm (entries es ++ [.ofComponent c]) := by
  rw [insertEnvironment_eq_alter]
  refine flatMap_alter_perm (fun e _ here => ?_) rfl
  simp only [environmentEntries, here]
  exact entries_insertDatacenter_perm c e.datacenters

/-! ## The shape of a tree -/

/-- Groups beside each other have different names. -/
structure HasDistinctSiblings (es : List Environment) : Prop where
  environments : (es.map (·.name)).Nodup
  datacenters : ∀ e ∈ es, (e.datacenters.map (·.name)).Nodup
  areas : ∀ e ∈ es, ∀ d ∈ e.datacenters, (d.areas.map (·.name)).Nodup

/-- Every group has something in it. -/
structure HasNoEmptyGroup (es : List Environment) : Prop where
  environments : ∀ e ∈ es, e.datacenters ≠ []
  datacenters : ∀ e ∈ es, ∀ d ∈ e.datacenters, d.areas ≠ []
  areas : ∀ e ∈ es, ∀ d ∈ e.datacenters, ∀ a ∈ d.areas, a.components ≠ []

theorem exists_of_mem_environmentsOf {e : Environment}
    (member : e ∈ environmentsOf classifier paths) :
    ∃ inside, inside ≠ [] ∧ e.datacenters = datacentersOf classifier inside := by
  obtain ⟨name, inside, some, rfl⟩ := exists_of_mem_groups member
  exact ⟨inside, some, rfl⟩

theorem exists_of_mem_datacentersOf {d : Datacenter}
    (member : d ∈ datacentersOf classifier paths) :
    ∃ inside, inside ≠ [] ∧ d.areas = areasOf classifier inside := by
  obtain ⟨name, inside, some, rfl⟩ := exists_of_mem_groups member
  exact ⟨inside, some, rfl⟩

theorem exists_of_mem_areasOf {a : Area} (member : a ∈ areasOf classifier paths) :
    ∃ inside : List Path, inside ≠ [] ∧ a.kind = classifier.area a.name ∧
      a.components = inside.eraseDups.map (·.identity) := by
  obtain ⟨name, inside, some, rfl⟩ := exists_of_mem_groups member
  exact ⟨inside, some, rfl, rfl⟩

theorem hasDistinctSiblings_environmentsOf :
    HasDistinctSiblings (environmentsOf classifier paths) where
  environments := nodup_map_name_groups fun _ _ => rfl
  datacenters e outer := by
    obtain ⟨inside, -, same⟩ := exists_of_mem_environmentsOf outer
    rw [same]
    exact nodup_map_name_groups fun _ _ => rfl
  areas e outer d middle := by
    obtain ⟨inside, -, same⟩ := exists_of_mem_environmentsOf outer
    obtain ⟨inside, -, same⟩ := exists_of_mem_datacentersOf (same ▸ middle)
    rw [same]
    exact nodup_map_name_groups fun _ _ => rfl

theorem hasNoEmptyGroup_environmentsOf : HasNoEmptyGroup (environmentsOf classifier paths) where
  environments e outer := by
    obtain ⟨inside, some, same⟩ := exists_of_mem_environmentsOf outer
    exact same ▸ groups_ne_nil some
  datacenters e outer d middle := by
    obtain ⟨inside, -, same⟩ := exists_of_mem_environmentsOf outer
    obtain ⟨inside, some, same⟩ := exists_of_mem_datacentersOf (same ▸ middle)
    exact same ▸ groups_ne_nil some
  areas e outer d middle a inner := by
    obtain ⟨inside, -, same⟩ := exists_of_mem_environmentsOf outer
    obtain ⟨inside, -, same⟩ := exists_of_mem_datacentersOf (same ▸ middle)
    obtain ⟨inside, some, -, same⟩ := exists_of_mem_areasOf (same ▸ inner)
    obtain ⟨p, member⟩ := List.exists_mem_of_ne_nil inside some
    rw [same]
    exact List.ne_nil_of_mem (List.mem_map_of_mem (List.mem_eraseDups.mpr member))

theorem kind_of_mem_environmentsOf {e : Environment} {d : Datacenter} {a : Area}
    (outer : e ∈ environmentsOf classifier paths) (middle : d ∈ e.datacenters)
    (inner : a ∈ d.areas) : a.kind = classifier.area a.name := by
  obtain ⟨inside, -, same⟩ := exists_of_mem_environmentsOf outer
  obtain ⟨inside, -, same⟩ := exists_of_mem_datacentersOf (same ▸ middle)
  obtain ⟨inside, -, kind, -⟩ := exists_of_mem_areasOf (same ▸ inner)
  exact kind

end NetDiagram.Proofs.Grouping
