import Mathlib.Data.List.Nodup
import NetDiagram.Document.Basic
import NetDiagram.Layout.Placement
import NetDiagram.Proofs.Drawing.Links
import NetDiagram.Proofs.Grouping.Assembly
import NetDiagram.Topology.Check

/-!
# Layouts that present a topology

A drawing is made from a topology and a layout, and the two fit together if the boxes of the layout
stand for the components of the topology, once each and in the right places. The layouts that are
computed for well grouped topologies do. What any drawing shows can then be said without looking at
the layout: all components, and the connections that resolve.

* `wellGrouped_ofText`: the topologies of texts are well grouped.
* `presents_layout`: the layout of a well grouped topology presents it.
* `map_identity_shown_perm`: a presenting layout shows every component once.
* `length_danglingWarnings`: the check counts the connections that are not shown.
-/

namespace NetDiagram.Proofs.Drawing
open Grouping Layout

variable {α : Type}

/-! ## Components by their identities -/

section Lookup

variable {t : Topology} {id : Identity} {c : Component}

theorem mem_of_component? (found : t.component? id = some c) :
    c ∈ t.components ∧ c.identity = id := by
  obtain ⟨member, same⟩ := mem_of_findRev? found
  exact ⟨member, of_decide_eq_true same⟩

theorem isSome_component?_iff :
    (t.component? id).isSome = true ↔ id ∈ t.components.map (·.identity) := by
  simp [Topology.component?]

theorem resolves_iff {c : Connection} :
    t.resolves c = true ↔ c.source ∈ t.components.map (·.identity) ∧
      c.target ∈ t.components.map (·.identity) := by
  rw [Topology.resolves, Bool.and_eq_true, isSome_component?_iff, isSome_component?_iff]

end Lookup

/-! ## Dangling connections -/

def danglingWarnings (t : Topology) : List Diagnostic :=
  t.check.filter fun d => d.code = some .danglingReference

theorem length_danglingWarnings (t : Topology) :
    (danglingWarnings t).length = (t.connections.filter fun c => !t.resolves c).length := by
  unfold danglingWarnings Topology.check
  induction t.connections with
  | nil => rfl
  | cons c cs ih =>
      by_cases resolves : t.resolves c = true
      · by_cases loop : c.isSelfLoop = true
        · simpa [Topology.warning?, resolves, loop, Topology.selfLoopWarning] using ih
        · simpa [Topology.warning?, resolves, loop] using ih
      · simpa [Topology.warning?, resolves, Topology.danglingWarning] using ih

/-- What a drawing shows if it leaves out nothing but the connections that do not resolve. -/
def fullStats (t : Topology) : Document.Stats where
  components := t.components.length
  connections := (t.connections.filter t.resolves).length
  dropped := (danglingWarnings t).length

/-! ## Something to draw -/

theorem isEmpty_or_isEmpty_of_ne_nil {t : Topology} {l : Layout α} (some : t.components ≠ [])
    (boxes : l.environments ≠ []) : (t.isEmpty || l.isEmpty) = false := by
  simp [Topology.isEmpty, Layout.isEmpty, some, boxes]

/-! ## Well grouped topologies -/

/-- The tree of a topology holds its components, once each and below the environments and
datacenters that they name. Nothing is said of the connections. -/
structure WellGrouped (t : Topology) : Prop where
  components : t.components ≠ []
  identities : (t.components.map (·.identity)).Nodup
  held : ((entries t.environments).map (·.component)).Perm (t.components.map (·.identity))
  placed : ∀ entry ∈ entries t.environments, ∀ c ∈ t.components, c.identity = entry.component →
    c.path.environment = entry.environment ∧ c.path.datacenter = entry.datacenter
  environments : (t.environments.map (·.name)).Nodup
  datacenters : ∀ e ∈ t.environments, (e.datacenters.map (·.name)).Nodup

theorem wellGrouped_of_isGrouping {classifier : Classifier} {paths : List Path} {t : Topology}
    (grouping : IsGrouping classifier paths t) (some : paths ≠ []) : WellGrouped t where
  components := by
    obtain ⟨p, member⟩ := List.exists_mem_of_ne_nil paths some
    rw [grouping.components]
    exact List.ne_nil_of_mem (List.mem_map_of_mem (List.mem_eraseDups.mpr member))
  identities := grouping.identities
  held := by
    have held := grouping.entries.map (·.component)
    rwa [List.map_map] at held
  placed entry inside c member same := by
    obtain ⟨c', -, rfl⟩ := List.mem_map.mp (grouping.entries.mem_iff.mp inside)
    have path : c.path = c'.path := by
      refine Naming.identity_injective ?_
      rw [← c.identity_eq, ← c'.identity_eq]
      exact same
    rw [path]
    exact ⟨rfl, rfl⟩
  environments := grouping.siblings.environments
  datacenters := grouping.siblings.datacenters

theorem wellGrouped_ofText {name text : String} {classifier : Classifier} {t : Topology}
    (parsed : Topology.ofText name classifier text = .ok t) : WellGrouped t := by
  obtain ⟨some, rfl⟩ := ofText_eq_ok_iff.mp parsed
  refine wellGrouped_of_isGrouping (isGrouping_ofStatements name _) ?_
  obtain ⟨s, member⟩ := List.exists_mem_of_ne_nil _ some
  have inside : s.source ∈ s.endpoints := List.mem_cons_self
  exact List.ne_nil_of_mem (List.mem_map_of_mem (List.mem_flatMap.mpr ⟨s, member, inside⟩))

/-! ## What the boxes of a layout say -/

def areaBoxEntries (environment datacenter : String) (a : AreaBox α) : List Entry :=
  a.components.map fun b => ⟨environment, datacenter, a.name, b.id⟩

def datacenterBoxEntries (environment : String) (d : DatacenterBox α) : List Entry :=
  d.areas.flatMap (areaBoxEntries environment d.name)

def environmentBoxEntries (e : EnvironmentBox α) : List Entry :=
  e.datacenters.flatMap (datacenterBoxEntries e.name)

def boxEntries (es : List (EnvironmentBox α)) : List Entry := es.flatMap environmentBoxEntries

/-- The names of the datacenters in the boxes of a layout, with those of their environments. -/
def sites (es : List (EnvironmentBox α)) : List (String × String) :=
  es.flatMap fun e => (e.datacenters.map (·.name)).map (e.name, ·)

theorem mem_boxEntries {es : List (EnvironmentBox α)} {entry : Entry} :
    entry ∈ boxEntries es ↔ ∃ e ∈ es, ∃ d ∈ e.datacenters, ∃ a ∈ d.areas, ∃ b ∈ a.components,
      entry = ⟨e.name, d.name, a.name, b.id⟩ := by
  simp [boxEntries, environmentBoxEntries, datacenterBoxEntries, areaBoxEntries, eq_comm]

theorem map_component_boxEntries (l : Layout α) :
    (boxEntries l.environments).map (·.component) = l.components.map (·.id) := by
  simp [boxEntries, environmentBoxEntries, datacenterBoxEntries, areaBoxEntries,
    Layout.components, List.map_flatMap, Function.comp_def]

/-- The boxes of a layout hold the components of a topology, once each and in the right places. -/
structure Presents (t : Topology) (l : Layout α) : Prop where
  identities : (t.components.map (·.identity)).Nodup
  held : (l.components.map (·.id)).Perm (t.components.map (·.identity))
  placed : ∀ entry ∈ boxEntries l.environments, ∀ c ∈ t.components, c.identity = entry.component →
    c.path.environment = entry.environment ∧ c.path.datacenter = entry.datacenter
  sites : (sites l.environments).Nodup

/-! ## What a presenting layout shows -/

section Presents

variable {t : Topology} {l : Layout α} (presents : Presents t l)

def known (t : Topology) (bs : List (ComponentBox α)) : List Component :=
  bs.filterMap fun b => t.component? b.id

theorem known_cons_of_none {b : ComponentBox α} {bs : List (ComponentBox α)}
    (unknown : t.component? b.id = none) : known t (b :: bs) = known t bs :=
  List.filterMap_cons_none unknown

theorem known_cons_of_some {b : ComponentBox α} {bs : List (ComponentBox α)} {c : Component}
    (found : t.component? b.id = some c) : known t (b :: bs) = c :: known t bs :=
  List.filterMap_cons_some found

theorem known_append (bs bs' : List (ComponentBox α)) :
    known t (bs ++ bs') = known t bs ++ known t bs' :=
  List.filterMap_append

def shown (t : Topology) (l : Layout α) : List Component := known t l.components

theorem map_identity_known {bs : List (ComponentBox α)}
    (stand : ∀ b ∈ bs, b.id ∈ t.components.map (·.identity)) :
    (known t bs).map (·.identity) = bs.map (·.id) := by
  induction bs with
  | nil => rfl
  | cons b bs ih =>
      obtain ⟨c, found⟩ := Option.isSome_iff_exists.mp
        (isSome_component?_iff.mpr (stand b List.mem_cons_self))
      rw [known_cons_of_some found, List.map_cons, List.map_cons, (mem_of_component? found).2,
        ih fun b' member => stand b' (List.mem_cons_of_mem _ member)]

include presents

theorem map_identity_shown_perm :
    ((shown t l).map (·.identity)).Perm (t.components.map (·.identity)) := by
  rw [shown, map_identity_known fun b member =>
    presents.held.mem_iff.mp (List.mem_map_of_mem member)]
  exact presents.held

theorem nodup_map_identity_shown : ((shown t l).map (·.identity)).Nodup :=
  (map_identity_shown_perm presents).nodup_iff.mpr presents.identities

theorem shown_perm : (shown t l).Perm t.components := by
  have known : ∀ c ∈ shown t l, c ∈ t.components := by
    intro c member
    obtain ⟨b, -, found⟩ := List.mem_filterMap.mp member
    exact (mem_of_component? found).1
  have distinct := (nodup_map_identity_shown presents).of_map _
  refine (List.perm_ext_iff_of_nodup distinct (presents.identities.of_map _)).mpr
    fun c => ⟨known c, fun member => ?_⟩
  obtain ⟨c', inside, same⟩ := List.mem_map.mp
    ((map_identity_shown_perm presents).mem_iff.mpr (List.mem_map_of_mem member))
  cases eq_of_nodup_map presents.identities member (known c' inside) same
  exact inside

theorem length_shown : (shown t l).length = t.components.length := by
  simpa using (map_identity_shown_perm presents).length_eq

theorem resolves_iff_shown {c : Connection} :
    t.resolves c = true ↔ c.source ∈ (shown t l).map (·.identity) ∧
      c.target ∈ (shown t l).map (·.identity) := by
  rw [resolves_iff, (map_identity_shown_perm presents).mem_iff,
    (map_identity_shown_perm presents).mem_iff]

theorem exists_box {id : Identity} {c : Component} (found : t.component? id = some c) :
    ∃ e ∈ l.environments, ∃ d ∈ e.datacenters,
      c.path.environment = e.name ∧ c.path.datacenter = d.name ∧
        id ∈ (known t (d.areas.flatMap (·.components))).map (·.identity) := by
  obtain ⟨member, identity⟩ := mem_of_component? found
  have boxed : id ∈ (boxEntries l.environments).map (·.component) := by
    rw [map_component_boxEntries, presents.held.mem_iff, ← isSome_component?_iff, found]
    rfl
  obtain ⟨entry, inside, same⟩ := List.mem_map.mp boxed
  obtain ⟨environment, datacenter⟩ := presents.placed entry inside c member
    (identity.trans same.symm)
  obtain ⟨e, outer, d, middle, a, inner, b, box, rfl⟩ := mem_boxEntries.mp inside
  have stands : t.component? b.id = some c := by
    rw [← found]
    exact congrArg t.component? same
  refine ⟨e, outer, d, middle, environment, datacenter, List.mem_map.mpr ⟨c, ?_, identity⟩⟩
  exact List.mem_filterMap.mpr ⟨b, List.mem_flatMap.mpr ⟨a, inner, box⟩, stands⟩

/-- The names of a datacenter and its environment belong to one box only. -/
theorem datacenter_eq_of_names_eq {e e' : EnvironmentBox α} {d d' : DatacenterBox α}
    (outer : e ∈ l.environments) (inner : d ∈ e.datacenters)
    (outer' : e' ∈ l.environments) (inner' : d' ∈ e'.datacenters)
    (environment : e'.name = e.name) (datacenter : d'.name = d.name) : d' = d := by
  -- Equal names mean the same place among the sites, and so the same box.
  let blocks := l.environments.flatMap fun e => e.datacenters.map (e, ·)
  have named : sites l.environments = blocks.map fun block => (block.1.name, block.2.name) := by
    simp [sites, blocks, List.map_flatMap, Function.comp_def]
  have distinct := presents.sites
  rw [named] at distinct
  have first : (e, d) ∈ blocks :=
    List.mem_flatMap.mpr ⟨e, outer, List.mem_map_of_mem inner⟩
  have second : (e', d') ∈ blocks :=
    List.mem_flatMap.mpr ⟨e', outer', List.mem_map_of_mem inner'⟩
  have same := eq_of_nodup_map distinct first second (by simp [environment, datacenter])
  exact (Prod.mk.inj same).2

theorem mem_known_of_names_eq {id : Identity} {c : Component} {e : EnvironmentBox α}
    {d : DatacenterBox α} (found : t.component? id = some c) (outer : e ∈ l.environments)
    (inner : d ∈ e.datacenters) (environment : c.path.environment = e.name)
    (datacenter : c.path.datacenter = d.name) :
    id ∈ (known t (d.areas.flatMap (·.components))).map (·.identity) := by
  obtain ⟨e', outer', d', inner', first, second, inside⟩ := exists_box presents found
  have same : d' = d := datacenter_eq_of_names_eq presents outer inner outer' inner'
    (first.symm.trans environment) (second.symm.trans datacenter)
  exact same ▸ inside

theorem isEmpty_or_isEmpty_eq_false (some : t.components ≠ []) :
    (t.isEmpty || l.isEmpty) = false := by
  have boxes : l.environments ≠ [] := by
    intro none
    have : l.components = [] := by rw [Layout.components, none, List.flatMap_nil]
    have held := presents.held
    rw [this] at held
    exact some (List.map_eq_nil_iff.mp held.symm.eq_nil)
  exact isEmpty_or_isEmpty_of_ne_nil some boxes

end Presents

/-! ## Computed layouts -/

section Placement

variable [Coordinate α] (s : Layout.Settings α)

theorem map_id_placeComponents (a : Area) :
    (s.placeComponents a).map (·.id) = a.components := by
  rw [Layout.Settings.placeComponents, List.map_map]
  exact List.zipIdx_map_fst 0 a.components

theorem entries_placeAreas (environment datacenter : String) (d : Datacenter) :
    (s.placeAreas d).flatMap (areaBoxEntries environment datacenter) =
      d.areas.flatMap (areaEntries environment datacenter) := by
  conv => rhs; rw [← List.zipIdx_map_fst 0 d.areas]
  rw [Layout.Settings.placeAreas, List.flatMap_map, List.flatMap_map]
  congr 1
  funext (a, column)
  rw [areaEntries, ← map_id_placeComponents s a, List.map_map]
  rfl

theorem entries_placeDatacenters (environment : String) (width y : α) (ds : List Datacenter) :
    (s.placeDatacenters width y ds).flatMap (datacenterBoxEntries environment) =
      ds.flatMap (datacenterEntries environment) := by
  induction ds generalizing y with
  | nil => rfl
  | cons d ds ih =>
      simp only [Layout.Settings.placeDatacenters, List.flatMap_cons, datacenterBoxEntries,
        datacenterEntries, entries_placeAreas, ih]

theorem entries_placeEnvironments (corner : Point α) (es : List Environment) :
    boxEntries (s.placeEnvironments corner es) = entries es := by
  induction es generalizing corner with
  | nil => rfl
  | cons e es ih =>
      simp only [boxEntries, entries] at ih ⊢
      simp only [Layout.Settings.placeEnvironments, Layout.Settings.placeEnvironment,
        List.flatMap_cons, ih, environmentBoxEntries, environmentEntries,
        entries_placeDatacenters]

theorem map_name_placeDatacenters (width y : α) (ds : List Datacenter) :
    (s.placeDatacenters width y ds).map (·.name) = ds.map (·.name) := by
  induction ds generalizing y with
  | nil => rfl
  | cons d ds ih => simp only [Layout.Settings.placeDatacenters, List.map_cons, ih]

theorem sites_placeEnvironments (corner : Point α) (es : List Environment) :
    sites (s.placeEnvironments corner es) =
      es.flatMap fun e => (e.datacenters.map (·.name)).map (e.name, ·) := by
  induction es generalizing corner with
  | nil => rfl
  | cons e es ih =>
      simp only [sites] at ih ⊢
      simp only [Layout.Settings.placeEnvironments, Layout.Settings.placeEnvironment,
        List.flatMap_cons, ih, map_name_placeDatacenters]

theorem nodup_sites {es : List Environment} (environments : (es.map (·.name)).Nodup)
    (datacenters : ∀ e ∈ es, (e.datacenters.map (·.name)).Nodup) :
    (es.flatMap fun e => (e.datacenters.map (·.name)).map (e.name, ·)).Nodup := by
  induction es with
  | nil => exact .nil
  | cons e es ih =>
      obtain ⟨new, later⟩ := List.nodup_cons.mp environments
      rw [List.flatMap_cons, List.nodup_append]
      refine ⟨?_, ih later fun e' member => datacenters e' (List.mem_cons_of_mem _ member), ?_⟩
      · refine List.Pairwise.map _ (fun n n' other same => other ?_)
          (datacenters e List.mem_cons_self)
        exact (Prod.mk.inj same).2
      · rintro site here other there rfl
        obtain ⟨n, -, rfl⟩ := List.mem_map.mp here
        obtain ⟨e', member, there⟩ := List.mem_flatMap.mp there
        obtain ⟨n', -, same⟩ := List.mem_map.mp there
        exact new (List.mem_map.mpr ⟨e', member, (Prod.mk.inj same).1⟩)

theorem presents_layout {t : Topology} (grouped : WellGrouped t) : Presents t (s.layout t) := by
  have same : boxEntries (s.layout t).environments = entries t.environments :=
    entries_placeEnvironments s _ _
  exact
    { identities := grouped.identities
      held := by
        rw [← map_component_boxEntries, same]
        exact grouped.held
      placed := by
        rw [same]
        exact grouped.placed
      sites := by
        rw [Layout.Settings.layout, sites_placeEnvironments]
        exact nodup_sites grouped.environments grouped.datacenters }

end Placement

end NetDiagram.Proofs.Drawing
