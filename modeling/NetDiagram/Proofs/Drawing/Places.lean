import Mathlib.Data.List.Basic
import NetDiagram.Proofs.Drawing.Blocks

/-!
# The places of lines in a flowchart

The outline of a layout has a block for every group, nested like the groups, and a node for every
component in the block of its area. An edge has its place in the block of the datacenter that both
of its ends belong to, or below all blocks.

* `opened?_outline`: the blocks.
* `declared?_outline_perm`: the nodes.
* `drawn?_outline_place`: the edges in one place.
-/

namespace NetDiagram.Proofs.Drawing
open Flowchart Grouping

variable {α β κ : Type} {t : Topology} {l : Layout α}

/-! ## Places -/

namespace Nested

def opened? : Nested → Option (List String)
  | ⟨blocks, .opening label⟩ => some (label :: blocks)
  | _ => none

def declared? : Nested → Option (List String × Component)
  | ⟨blocks, .node c⟩ => some (blocks, c)
  | _ => none

def drawn? : Nested → Option (List String × Connection)
  | ⟨blocks, .edge c⟩ => some (blocks, c)
  | _ => none

end Nested

/-- The names of every group and of those around it, in the order of the tree. -/
def groupNames (es : List Environment) : List (List String) :=
  es.flatMap fun e => [e.name] :: e.datacenters.flatMap fun d =>
    [d.name, e.name] :: d.areas.map fun a => [a.name, d.name, e.name]

/-- The names of the area of a component and of the groups around it. -/
def componentHome (c : Component) : List String :=
  [c.path.area, c.path.datacenter, c.path.environment]

/-- The names of the datacenter of both ends of a connection and of the environment around it. There
are none if the ends belong to different datacenters. -/
def connectionHome (t : Topology) (c : Connection) : List String :=
  match t.component? c.source, t.component? c.target with
  | some source, some target =>
      if source.path.environment = target.path.environment ∧
          source.path.datacenter = target.path.datacenter then
        [source.path.datacenter, source.path.environment]
      else []
  | _, _ => []

/-! ## Reading an outline -/

section Outline

variable {blocks : List String} {label : String} {inside : List String → List Nested}

theorem filterMap_blockOutline {f : Nested → Option β} (closing : f ⟨blocks, .closing⟩ = none) :
    (blockOutline blocks label inside).filterMap f =
      (f ⟨blocks, .opening label⟩).toList ++ (inside (label :: blocks)).filterMap f := by
  rw [blockOutline, List.cons_append, List.filterMap_cons, List.filterMap_append,
    List.filterMap_cons_none closing, List.filterMap_nil, List.append_nil]
  cases f ⟨blocks, .opening label⟩ <;> rfl

theorem filterMap_map_none {f : Nested → Option β} {g : κ → Nested} (none : ∀ x, f (g x) = none)
    (xs : List κ) : (xs.map g).filterMap f = [] := by
  rw [List.filterMap_map]
  apply List.filterMap_eq_nil_iff.mpr
  intro x _
  exact none x

theorem declared?_nodes (cs : List Component) :
    (cs.map fun c => Nested.mk blocks (.node c)).filterMap Nested.declared? =
      cs.map (blocks, ·) := by
  rw [List.filterMap_map]
  exact congrFun List.filterMap_eq_map cs

theorem drawn?_edges (cs : List Connection) :
    (cs.map fun c => Nested.mk blocks (.edge c)).filterMap Nested.drawn? =
      cs.map (blocks, ·) := by
  rw [List.filterMap_map]
  exact congrFun List.filterMap_eq_map cs

end Outline

/-! ## Blocks -/

section Placement

variable [Coordinate α] (s : Layout.Settings α)

theorem opened?_placeAreas (blocks : List String) (d : Datacenter) :
    ((s.placeAreas d).flatMap (areaOutline t blocks)).filterMap Nested.opened? =
      d.areas.map fun a => a.name :: blocks := by
  have single (a : Layout.AreaBox α) :
      (areaOutline t blocks a).filterMap Nested.opened? = [a.name :: blocks] := by
    rw [areaOutline, filterMap_blockOutline rfl, filterMap_map_none fun _ => rfl]
    rfl
  conv => rhs; rw [← List.zipIdx_map_fst 0 d.areas]
  rw [List.filterMap_flatMap, funext single, Layout.Settings.placeAreas, List.flatMap_map,
    List.map_map, List.map_eq_flatMap]
  rfl

theorem opened?_placeDatacenters (environment : String) (width y : α) (ds : List Datacenter) :
    ((s.placeDatacenters width y ds).flatMap
        (datacenterOutline t [environment] environment)).filterMap Nested.opened? =
      ds.flatMap fun d => [d.name, environment] ::
        d.areas.map fun a => [a.name, d.name, environment] := by
  induction ds generalizing y with
  | nil => rfl
  | cons d ds ih =>
      rw [Layout.Settings.placeDatacenters, List.flatMap_cons, List.filterMap_append, ih,
        datacenterOutline, filterMap_blockOutline rfl, List.filterMap_append,
        opened?_placeAreas, filterMap_map_none fun _ => rfl, List.append_nil, List.flatMap_cons]
      rfl

theorem opened?_placeEnvironments (corner : Point α) (es : List Environment) :
    ((s.placeEnvironments corner es).flatMap (environmentOutline t)).filterMap Nested.opened? =
      groupNames es := by
  induction es generalizing corner with
  | nil => rfl
  | cons e es ih =>
      rw [Layout.Settings.placeEnvironments, List.flatMap_cons, List.filterMap_append, ih,
        Layout.Settings.placeEnvironment, environmentOutline, filterMap_blockOutline rfl,
        opened?_placeDatacenters]
      rfl

theorem opened?_outline : (outline t (s.layout t)).filterMap Nested.opened? =
    groupNames t.environments := by
  rw [outline, List.filterMap_append, filterMap_map_none fun _ => rfl, List.append_nil]
  exact opened?_placeEnvironments s _ _

theorem map_names_placeEnvironments (corner : Point α) (es : List Environment) :
    (s.placeEnvironments corner es).map (fun e => (e.name, e.datacenters.map (·.name))) =
      es.map fun e => (e.name, e.datacenters.map (·.name)) := by
  induction es generalizing corner with
  | nil => rfl
  | cons e es ih =>
      rw [Layout.Settings.placeEnvironments, List.map_cons, ih, Layout.Settings.placeEnvironment,
        map_name_placeDatacenters]
      rfl

end Placement

/-! ## Different names -/

theorem eq_of_suffix {n n' : String} {outer blocks : List String} (first : n :: outer <:+ blocks)
    (second : n' :: outer <:+ blocks) : n = n' := by
  obtain ⟨front, rfl⟩ := first
  obtain ⟨front', same⟩ := second
  have ends := List.append_inj_right' same rfl
  exact (List.cons.inj ends).1.symm

/-- The groups in `inner x` are all below the one with the name of `x`. -/
theorem nodup_names {name : β → String} {inner : β → List (List String)} {xs : List β}
    {outer : List String} (distinct : (xs.map name).Nodup) (each : ∀ x ∈ xs, (inner x).Nodup)
    (below : ∀ x ∈ xs, ∀ names ∈ inner x, ∃ n, n :: name x :: outer <:+ names) :
    (xs.flatMap fun x => (name x :: outer) :: inner x).Nodup := by
  have here : ∀ x ∈ xs, ∀ names ∈ (name x :: outer) :: inner x, name x :: outer <:+ names := by
    intro x member names inside
    rcases List.mem_cons.mp inside with rfl | inside
    · exact List.suffix_rfl
    · obtain ⟨n, suffix⟩ := below x member names inside
      exact (List.suffix_cons n _).trans suffix
  apply List.pairwise_flatMap.mpr
  constructor
  · intro x member
    apply List.nodup_cons.mpr
    refine ⟨?_, each x member⟩
    intro inside
    obtain ⟨n, suffix⟩ := below x member _ inside
    have length := suffix.length_le
    simp only [List.length_cons] at length
    omega
  · apply (List.pairwise_map.mp distinct).imp_of_mem
    intro x y first second other names inside names' inside' same
    apply other
    exact eq_of_suffix (here x first names inside) (same ▸ here y second names' inside')

theorem nodup_groupNames {es : List Environment} (siblings : HasDistinctSiblings es) :
    (groupNames es).Nodup := by
  have areas : ∀ e ∈ es, ∀ d ∈ e.datacenters,
      (d.areas.map fun a => [a.name, d.name, e.name]).Nodup := by
    intro e outer d inner
    apply List.pairwise_map.mpr
    apply (List.pairwise_map.mp (siblings.areas e outer d inner)).imp
    intro a a' other same
    exact other (List.cons.inj same).1
  apply nodup_names siblings.environments
  · intro e outer
    apply nodup_names (siblings.datacenters e outer) (areas e outer)
    intro d _ names inside
    obtain ⟨a, -, rfl⟩ := List.mem_map.mp inside
    exact ⟨a.name, List.suffix_rfl⟩
  · intro e _ names inside
    obtain ⟨d, -, inside⟩ := List.mem_flatMap.mp inside
    refine ⟨d.name, ?_⟩
    rcases List.mem_cons.mp inside with rfl | inside
    · exact List.suffix_rfl
    · obtain ⟨a, -, rfl⟩ := List.mem_map.mp inside
      exact List.suffix_cons a.name _

/-! ## Components -/

def nodeOf (t : Topology) (entry : Entry) : Option (List String × Component) :=
  (t.component? entry.component).map
    (([entry.area, entry.datacenter, entry.environment], ·))

theorem declared?_areaOutline (environment datacenter : String) (a : Layout.AreaBox α) :
    (areaOutline t [datacenter, environment] a).filterMap Nested.declared? =
      (areaBoxEntries environment datacenter a).filterMap (nodeOf t) := by
  rw [areaOutline, filterMap_blockOutline rfl, declared?_nodes, areaBoxEntries,
    List.filterMap_map, known, List.map_filterMap]
  rfl

theorem declared?_datacenterOutline (environment : String) (d : Layout.DatacenterBox α) :
    (datacenterOutline t [environment] environment d).filterMap Nested.declared? =
      (datacenterBoxEntries environment d).filterMap (nodeOf t) := by
  rw [datacenterOutline, filterMap_blockOutline rfl, List.filterMap_append,
    filterMap_map_none fun _ => rfl, List.append_nil, List.filterMap_flatMap,
    datacenterBoxEntries, List.filterMap_flatMap]
  simp only [declared?_areaOutline]
  rfl

theorem declared?_outline :
    (outline t l).filterMap Nested.declared? =
      (boxEntries l.environments).filterMap (nodeOf t) := by
  have environments (e : Layout.EnvironmentBox α) :
      (environmentOutline t e).filterMap Nested.declared? =
        (environmentBoxEntries e).filterMap (nodeOf t) := by
    rw [environmentOutline, filterMap_blockOutline rfl, List.filterMap_flatMap,
      environmentBoxEntries, List.filterMap_flatMap]
    simp only [declared?_datacenterOutline]
    rfl
  rw [outline, List.filterMap_append, filterMap_map_none fun _ => rfl, List.append_nil,
    List.filterMap_flatMap, boxEntries, List.filterMap_flatMap]
  simp only [environments]

theorem nodeOf_ofComponent {c : Component} (found : t.component? c.identity = some c) :
    nodeOf t (.ofComponent c) = some (componentHome c, c) := by
  rw [nodeOf, Entry.ofComponent, found]
  rfl

theorem declared?_outline_perm (held : (boxEntries l.environments).Perm
      (t.components.map .ofComponent))
    (found : ∀ c ∈ t.components, t.component? c.identity = some c) :
    ((outline t l).filterMap Nested.declared?).Perm
      (t.components.map fun c => (componentHome c, c)) := by
  have all : (t.components.map Entry.ofComponent).filterMap (nodeOf t) =
      t.components.map fun c => (componentHome c, c) := by
    rw [List.filterMap_map, ← List.filterMap_eq_map]
    apply List.filterMap_congr
    intro c member
    exact nodeOf_ofComponent (found c member)
  rw [declared?_outline, ← all]
  exact held.filterMap _

/-! ## Edges -/

def siteNames : Option (String × String) → List String
  | none => []
  | some (environment, datacenter) => [datacenter, environment]

theorem siteNames_injective {site site' : Option (String × String)}
    (same : siteNames site = siteNames site') : site = site' := by
  cases site <;> cases site' <;> simp_all [siteNames, Prod.ext_iff]

theorem connectionHome_eq (t : Topology) (c : Connection) :
    connectionHome t c = siteNames (site? t c) := by
  unfold connectionHome site?
  cases t.component? c.source with
  | none => rfl
  | some source =>
      cases t.component? c.target with
      | none => rfl
      | some target =>
          simp only [Option.bind_eq_bind, Option.bind_some]
          split <;> rfl

theorem drawn?_datacenterOutline (environment : String) (d : Layout.DatacenterBox α) :
    (datacenterOutline t [environment] environment d).filterMap Nested.drawn? =
      (t.connections.filter fun c => site? t c = some (environment, d.name)).map
        fun c => (connectionHome t c, c) := by
  have none : (d.areas.flatMap (areaOutline t [d.name, environment])).filterMap Nested.drawn? =
      [] := by
    rw [List.filterMap_flatMap]
    apply List.flatMap_eq_nil_iff.mpr
    intro a _
    rw [areaOutline, filterMap_blockOutline rfl, filterMap_map_none fun _ => rfl]
    rfl
  rw [datacenterOutline, filterMap_blockOutline rfl, List.filterMap_append, none,
    List.nil_append, drawn?_edges, connectionsWithin_sited]
  apply List.map_congr_left
  intro c member
  rw [connectionHome_eq, of_decide_eq_true (List.mem_filter.mp member).2]
  rfl

theorem drawn?_environmentOutline (e : Layout.EnvironmentBox α) :
    (environmentOutline t e).filterMap Nested.drawn? =
      ((e.datacenters.map (·.name)).map (e.name, ·)).flatMap fun site =>
        (t.connections.filter fun c => site? t c = some site).map
          fun c => (connectionHome t c, c) := by
  rw [environmentOutline, filterMap_blockOutline rfl, List.filterMap_flatMap, List.map_map,
    List.flatMap_map]
  simp only [drawn?_datacenterOutline]
  rfl

theorem drawn?_outline :
    (outline t l).filterMap Nested.drawn? =
      ((sites l.environments).flatMap (fun site =>
          t.connections.filter fun c => site? t c = some site) ++
        (t.connections.filter fun c => (site? t c).isNone).filter t.resolves).map
          fun c => (connectionHome t c, c) := by
  have between : (((connectionsBetween (sited t)).filter t.resolves).map fun c =>
      Nested.mk [] (.edge c)).filterMap Nested.drawn? =
        ((t.connections.filter fun c => (site? t c).isNone).filter t.resolves).map
          fun c => (connectionHome t c, c) := by
    rw [drawn?_edges, connectionsBetween_sited]
    apply List.map_congr_left
    intro c member
    have alone := (List.mem_filter.mp (List.mem_filter.mp member).1).2
    rw [connectionHome_eq, Option.isNone_iff_eq_none.mp alone]
    rfl
  rw [outline, List.filterMap_append, between, List.filterMap_flatMap, List.map_append,
    List.map_flatMap, sites, List.flatMap_assoc]
  simp only [drawn?_environmentOutline]

/-! ## Edges in one place -/

section Sorting

variable [DecidableEq κ] {keys : List κ} (f : β → Option κ) (xs : List β)

theorem filter_filter_key (key key' : Option κ) :
    (xs.filter fun x => f x = key').filter (fun x => f x = key) =
      if key' = key then xs.filter fun x => f x = key else [] := by
  split
  · rename_i same
    rw [same, List.filter_filter]
    simp only [Bool.and_self]
  · rename_i other
    apply List.filter_eq_nil_iff.mpr
    intro x member
    have key' := of_decide_eq_true (List.mem_filter.mp member).2
    simpa [key'] using other

theorem filter_flatMap_key (distinct : keys.Nodup) (key : κ) :
    (keys.flatMap fun k => xs.filter fun x => f x = some k).filter (fun x => f x = some key) =
      if key ∈ keys then xs.filter fun x => f x = some key else [] := by
  induction keys with
  | nil => rfl
  | cons k ks ih =>
      obtain ⟨once, distinct⟩ := List.nodup_cons.mp distinct
      rw [List.flatMap_cons, List.filter_append, ih distinct, filter_filter_key]
      by_cases same : k = key
      · subst same
        simp [once]
      · have other : key ≠ k := Ne.symm same
        simp [same, other]

/-- Sorting by keys keeps the order of the values with one key. -/
theorem filter_sorted (distinct : keys.Nodup) {f : β → Option κ} {xs : List β}
    (covered : ∀ x ∈ xs, ∀ k, f x = some k → k ∈ keys) (key : Option κ) :
    ((keys.flatMap fun k => xs.filter fun x => f x = some k) ++
      xs.filter fun x => f x = none).filter (fun x => f x = key) =
        xs.filter fun x => f x = key := by
  rw [List.filter_append, filter_filter_key]
  cases key with
  | none =>
      have keyed : (keys.flatMap fun k => xs.filter fun x => f x = some k).filter
          (fun x => f x = none) = [] := by
        simp only [List.filter_flatMap, filter_filter_key, reduceCtorEq, if_false]
        exact List.flatMap_eq_nil_iff.mpr fun _ _ => rfl
      rw [keyed, if_pos rfl, List.nil_append]
  | some k =>
      rw [filter_flatMap_key f xs distinct]
      by_cases used : k ∈ keys
      · simp [used]
      · have unkeyed : xs.filter (fun x => f x = some k) = [] := by
          apply List.filter_eq_nil_iff.mpr
          intro x member same
          exact used (covered x member k (of_decide_eq_true same))
        simp [used, unkeyed]

end Sorting

section Presents

variable (presents : Presents t l) (resolved : ∀ c ∈ t.connections, t.resolves c = true)
include presents resolved

theorem drawn?_outline_place (blocks : List String) :
    (((outline t l).filterMap Nested.drawn?).filter fun x => x.1 = blocks).map (·.2) =
      t.connections.filter fun c => connectionHome t c = blocks := by
  have covered : ∀ c ∈ t.connections, ∀ site, site? t c = some site →
      site ∈ sites l.environments := by
    intro c _ site shared
    have any := any_sites_eq_isSome presents c
    rw [shared] at any
    simpa using any
  have between : (t.connections.filter fun c => (site? t c).isNone).filter t.resolves =
      t.connections.filter fun c => site? t c = none := by
    rw [List.filter_filter]
    apply List.filter_congr
    intro c member
    rw [resolved c member]
    cases site? t c <;> rfl
  rw [drawn?_outline, between, List.filter_map, List.map_map]
  refine (List.map_id _).trans ?_
  -- Only the connections with one site have their place here, if there are any.
  by_cases known : ∃ site, siteNames site = blocks
  · obtain ⟨site, rfl⟩ := known
    have here (c : Connection) : decide (connectionHome t c = siteNames site) =
        decide (site? t c = site) := by
      rw [connectionHome_eq]
      exact decide_eq_decide.mpr ⟨siteNames_injective, congrArg siteNames⟩
    simp only [Function.comp_def, here]
    exact filter_sorted presents.sites covered site
  · have nowhere (c : Connection) : connectionHome t c ≠ blocks := by
      intro here
      exact known ⟨site? t c, (connectionHome_eq t c).symm.trans here⟩
    simp [Function.comp_def, nowhere]

end Presents

end NetDiagram.Proofs.Drawing
