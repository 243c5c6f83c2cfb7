import NetDiagram.Document.Flowchart
import NetDiagram.Proofs.Drawing.Presentation

/-!
# What a Mermaid flowchart shows

The steps declare the components of the layout in its order. A connection within one datacenter is
written in the block of that datacenter, and both of its ends are declared there, so none of them
is left out, whatever has been declared before; and as no two datacenters are the same site, none
of them is written twice. All other connections are written at the end, where everything has been
declared. So the edges are the connections that resolve, in another order.

* `links_environmentsSteps`: what the blocks do with connections.
* `edge?_steps_perm`: which connections have an edge.
* `stats_steps`: what is counted.
-/

namespace NetDiagram.Proofs.Drawing
open Flowchart

variable {α β κ : Type} {t : Topology} {l : Layout α}

/-! ## Sorting a list by a partial key -/

theorem flatMap_filter_perm [DecidableEq κ] {keys : List κ} (distinct : keys.Nodup)
    (f : β → Option κ) (xs : List β) :
    (keys.flatMap fun k => xs.filter fun x => f x = some k).Perm
      (xs.filter fun x => keys.any fun k => f x = some k) := by
  induction keys with
  | nil => simp
  | cons k ks ih =>
      obtain ⟨once, distinct⟩ := List.nodup_cons.mp distinct
      -- The values with one of the keys are those with the first key and the rest of them.
      let all := xs.filter fun x => (k :: ks).any fun k => f x = some k
      have first : xs.filter (fun x => f x = some k) = all.filter fun x => f x = some k := by
        rw [List.filter_filter]
        refine List.filter_congr fun x _ => ?_
        simp only [List.any_cons]
        cases decide (f x = some k) <;> rfl
      have later : xs.filter (fun x => ks.any fun k => f x = some k) =
          all.filter fun x => !decide (f x = some k) := by
        rw [List.filter_filter]
        refine List.filter_congr fun x _ => ?_
        by_cases here : f x = some k
        · have : ∀ k' ∈ ks, k ≠ k' := fun k' member same => once (same ▸ member)
          simpa [here] using this
        · simp [here]
      rw [List.flatMap_cons, first]
      refine (List.Perm.append_left _ (ih distinct)).trans ?_
      rw [later]
      exact List.filter_append_perm _ all

/-! ## Steps about connections -/

def isLink : Step → Bool
  | .write (.edge _ _) => true
  | .drop _ => true
  | _ => false

def links (steps : List Step) : List Step := steps.filter isLink

theorem links_append (steps steps' : List Step) :
    links (steps ++ steps') = links steps ++ links steps' :=
  List.filter_append steps steps'

theorem links_edgeSteps (known : List Identity) (depth : Nat) (cs : List Connection) :
    links (cs.map (edgeStep known depth)) = cs.map (edgeStep known depth) := by
  refine List.filter_eq_self.mpr fun step member => ?_
  obtain ⟨c, -, rfl⟩ := List.mem_map.mp member
  unfold edgeStep
  split <;> rfl

theorem filterMap_edge?_links (steps : List Step) :
    (links steps).filterMap (·.edge?) = steps.filterMap (·.edge?) := by
  rw [links, List.filterMap_filter]
  congr 1
  funext step
  rcases step with (line | id | c)
  · cases line <;> rfl
  · rfl
  · rfl

theorem filterMap_dropped?_links (steps : List Step) :
    (links steps).filterMap (·.dropped?) = steps.filterMap (·.dropped?) := by
  rw [links, List.filterMap_filter]
  congr 1
  funext step
  rcases step with (line | id | c)
  · cases line <;> rfl
  · rfl
  · rfl

/-! ## Declared components -/

theorem declared_eq (steps : List Step) :
    declared steps = (steps.filterMap (·.component?)).map (·.identity) := by
  rw [declared, List.map_filterMap]

theorem component?_edgeSteps (known : List Identity) (depth : Nat) (cs : List Connection) :
    (cs.map (edgeStep known depth)).filterMap (·.component?) = [] := by
  refine List.filterMap_eq_nil_iff.mpr fun step member => ?_
  obtain ⟨c, -, rfl⟩ := List.mem_map.mp member
  unfold edgeStep
  split <;> rfl

theorem component?_nodeSteps (bs : List (Layout.ComponentBox α)) :
    (bs.map fun b => nodeStep t b.id).filterMap (·.component?) = known t bs := by
  rw [List.filterMap_map]
  congr 1
  funext b
  rw [Function.comp_apply, nodeStep]
  split
  · rename_i found
    exact found.symm
  · rename_i unknown
    exact unknown.symm

theorem links_nodeSteps (bs : List (Layout.ComponentBox α)) :
    links (bs.map fun b => nodeStep t b.id) = [] := by
  refine List.filter_eq_nil_iff.mpr fun step member => ?_
  obtain ⟨b, -, rfl⟩ := List.mem_map.mp member
  unfold nodeStep
  split <;> simp [isLink]

/-! ## Blocks -/

theorem component?_block (path : BlockPath) (label : String) (depth : Nat) (inner : List Step) :
    (Step.write (.opening path label) :: inner ++ [Step.write (.closing depth)]).filterMap
      (·.component?) = inner.filterMap (·.component?) := by
  rw [List.cons_append, List.filterMap_cons_none rfl, List.filterMap_append]
  exact List.append_nil _

theorem links_block (path : BlockPath) (label : String) (depth : Nat) (inner : List Step) :
    links (.write (.opening path label) :: inner ++ [.write (.closing depth)]) = links inner := by
  change links (inner ++ [.write (.closing depth)]) = links inner
  rw [links_append]
  exact List.append_nil _

theorem component?_areaSteps (path : BlockPath) (a : Layout.AreaBox α) :
    (areaSteps t path a).filterMap (·.component?) = known t a.components := by
  rw [areaSteps, component?_block, component?_nodeSteps]

theorem links_areaSteps (path : BlockPath) (a : Layout.AreaBox α) :
    links (areaSteps t path a) = [] := by
  rw [areaSteps, links_block, links_nodeSteps]

theorem component?_areasSteps (path : BlockPath) (d : Layout.DatacenterBox α) :
    (areasSteps t path d).filterMap (·.component?) = known t (d.areas.flatMap (·.components)) := by
  conv => rhs; rw [← List.zipIdx_map_fst 0 d.areas]
  rw [areasSteps, known, List.filterMap_flatMap, List.filterMap_flatMap, List.flatMap_map]
  congr 1
  funext (a, position)
  exact component?_areaSteps _ a

theorem links_areasSteps (path : BlockPath) (d : Layout.DatacenterBox α) :
    links (areasSteps t path d) = [] := by
  rw [areasSteps, links, List.filter_flatMap, List.flatMap_eq_nil_iff]
  exact fun (a, position) _ => links_areaSteps _ a

/-- Both ends of every connection within a datacenter are in its box. -/
def Settled (t : Topology) (connections : List Sited) (environment : String)
    (d : Layout.DatacenterBox α) : Prop :=
  ∀ c ∈ connectionsWithin environment d.name connections,
    c.source ∈ (known t (d.areas.flatMap (·.components))).map (·.identity) ∧
      c.target ∈ (known t (d.areas.flatMap (·.components))).map (·.identity)

def linksWithin (connections : List Sited) (environment datacenter : String) : List Step :=
  (connectionsWithin environment datacenter connections).map fun c => .write (.edge 2 c)

variable {connections : List Sited} {environment : String}

theorem component?_datacenterSteps (before : List Identity) (path : BlockPath)
    (d : Layout.DatacenterBox α) :
    (datacenterSteps t connections environment before path d).filterMap (·.component?) =
      known t (d.areas.flatMap (·.components)) := by
  rw [datacenterSteps, List.cons_append, component?_block, List.filterMap_append,
    component?_edgeSteps, List.append_nil, component?_areasSteps]

theorem links_datacenterSteps {d : Layout.DatacenterBox α}
    (settled : Settled t connections environment d) (before : List Identity)
    (path : BlockPath) :
    links (datacenterSteps t connections environment before path d) =
      linksWithin connections environment d.name := by
  rw [datacenterSteps, List.cons_append, links_block, links_append, links_areasSteps,
    links_edgeSteps, List.nil_append, linksWithin]
  refine List.map_congr_left fun c member => ?_
  -- Both ends are declared in this very block, so it does not matter what came before.
  obtain ⟨source, target⟩ := settled c member
  rw [← component?_areasSteps path, ← declared_eq] at source target
  simp [edgeStep, source, target]

theorem component?_datacentersSteps (before : List Identity) (outer : BlockPath) (position : Nat)
    (ds : List (Layout.DatacenterBox α)) :
    (datacentersSteps t connections environment before outer position ds).filterMap
        (·.component?) =
      known t (ds.flatMap fun d => d.areas.flatMap (·.components)) := by
  induction ds generalizing before position with
  | nil => rfl
  | cons d ds ih =>
      rw [datacentersSteps, List.filterMap_append, component?_datacenterSteps, ih,
        List.flatMap_cons, known_append]

theorem links_datacentersSteps {ds : List (Layout.DatacenterBox α)}
    (settled : ∀ d ∈ ds, Settled t connections environment d) (before : List Identity)
    (outer : BlockPath) (position : Nat) :
    links (datacentersSteps t connections environment before outer position ds) =
      (ds.map (·.name)).flatMap (linksWithin connections environment) := by
  induction ds generalizing before position with
  | nil => rfl
  | cons d ds ih =>
      rw [datacentersSteps, links_append, links_datacenterSteps (settled d List.mem_cons_self),
        ih fun d' member => settled d' (List.mem_cons_of_mem _ member), List.map_cons,
        List.flatMap_cons]

theorem component?_environmentsSteps (before : List Identity) (position : Nat)
    (es : List (Layout.EnvironmentBox α)) :
    (environmentsSteps t connections before position es).filterMap (·.component?) =
      known t (es.flatMap fun e => e.datacenters.flatMap fun d =>
        d.areas.flatMap (·.components)) := by
  induction es generalizing before position with
  | nil => rfl
  | cons e es ih =>
      rw [environmentsSteps, List.filterMap_append, ih, environmentSteps, component?_block,
        component?_datacentersSteps, List.flatMap_cons, known_append]

/-- The blocks write the connections within their datacenters and leave none out. -/
theorem links_environmentsSteps {es : List (Layout.EnvironmentBox α)}
    (settled : ∀ e ∈ es, ∀ d ∈ e.datacenters, Settled t connections e.name d)
    (before : List Identity) (position : Nat) :
    links (environmentsSteps t connections before position es) =
      (sites es).flatMap fun site => linksWithin connections site.1 site.2 := by
  induction es generalizing before position with
  | nil => rfl
  | cons e es ih =>
      have later := ih fun e' member => settled e' (List.mem_cons_of_mem _ member)
      have first : sites (e :: es) = (e.datacenters.map (·.name)).map (e.name, ·) ++ sites es :=
        List.flatMap_cons
      rw [environmentsSteps, links_append, later, environmentSteps, links_block,
        links_datacentersSteps (settled e List.mem_cons_self), first, List.flatMap_append,
        List.flatMap_map (e.name, ·)]

/-! ## Sites of connections -/

theorem exists_of_site? {c : Connection} {environment datacenter : String}
    (shared : site? t c = some (environment, datacenter)) :
    ∃ source target, t.component? c.source = some source ∧ t.component? c.target = some target ∧
      (source.path.environment = environment ∧ source.path.datacenter = datacenter) ∧
      target.path.environment = environment ∧ target.path.datacenter = datacenter := by
  unfold site? at shared
  cases first : t.component? c.source with
  | none => simp [first] at shared
  | some source =>
      cases second : t.component? c.target with
      | none => simp [first, second] at shared
      | some target =>
          simp only [first, second, Option.bind_eq_bind, Option.bind_some,
            Option.ite_none_right_eq_some, Option.some.injEq, Prod.mk.injEq] at shared
          obtain ⟨⟨environments, datacenters⟩, environment, datacenter⟩ := shared
          exact ⟨source, target, rfl, rfl, ⟨environment, datacenter⟩,
            environments.symm.trans environment, datacenters.symm.trans datacenter⟩

theorem resolves_of_site? {c : Connection} (shared : (site? t c).isSome = true) :
    t.resolves c = true := by
  obtain ⟨site, shared⟩ := Option.isSome_iff_exists.mp shared
  obtain ⟨source, target, first, second, -⟩ := exists_of_site? shared
  simp [Topology.resolves, first, second]

theorem connectionsWithin_sited (environment datacenter : String) :
    connectionsWithin environment datacenter (sited t) =
      t.connections.filter fun c => site? t c = some (environment, datacenter) := by
  rw [connectionsWithin, sited, List.filter_map, List.map_map]
  exact List.map_id'' (fun c => rfl) _

theorem connectionsBetween_sited :
    connectionsBetween (sited t) = t.connections.filter fun c => (site? t c).isNone := by
  rw [connectionsBetween, sited, List.filter_map, List.map_map]
  exact List.map_id'' (fun c => rfl) _

/-! ## The flowchart of a layout that presents the topology -/

theorem edge?_linksWithin (environment datacenter : String) :
    (linksWithin connections environment datacenter).filterMap (·.edge?) =
      connectionsWithin environment datacenter connections := by
  rw [linksWithin, List.filterMap_map]
  exact List.filterMap_some

theorem dropped?_linksWithin (environment datacenter : String) :
    (linksWithin connections environment datacenter).filterMap (·.dropped?) = [] := by
  rw [linksWithin, List.filterMap_map]
  exact List.filterMap_eq_nil_iff.mpr fun c _ => rfl

theorem edge?_edgeSteps (known : List Identity) (depth : Nat) (cs : List Connection) :
    (cs.map (edgeStep known depth)).filterMap (·.edge?) =
      cs.filter fun c => known.contains c.source && known.contains c.target := by
  rw [List.filterMap_map, ← List.filterMap_eq_filter]
  congr 1
  funext c
  rw [Function.comp_apply, edgeStep, Option.guard]
  cases known.contains c.source && known.contains c.target <;> rfl

theorem dropped?_edgeSteps (known : List Identity) (depth : Nat) (cs : List Connection) :
    (cs.map (edgeStep known depth)).filterMap (·.dropped?) =
      cs.filter fun c => !(known.contains c.source && known.contains c.target) := by
  rw [List.filterMap_map, ← List.filterMap_eq_filter]
  congr 1
  funext c
  rw [Function.comp_apply, edgeStep, Option.guard]
  cases known.contains c.source && known.contains c.target <;> rfl

/-- One node alone has the given identity, by which edges refer to it. -/
def HasSoleNode (steps : List Step) (id : Identity) : Prop :=
  ∃ n, (steps.filterMap (·.component?)).filter (fun n => n.identity = id) = [n]

theorem component?_steps : (steps t l).filterMap (·.component?) = shown t l := by
  rw [steps, List.filterMap_append, component?_edgeSteps, List.append_nil,
    component?_environmentsSteps]
  rfl

section Presents

variable (presents : Presents t l)
include presents

theorem settled_of_presents :
    ∀ e ∈ l.environments, ∀ d ∈ e.datacenters, Settled t (sited t) e.name d := by
  intro e outer d inner c member
  rw [connectionsWithin_sited] at member
  obtain ⟨source, target, first, second, here, there⟩ :=
    exists_of_site? (of_decide_eq_true (List.mem_filter.mp member).2)
  exact ⟨mem_known_of_names_eq presents first outer inner here.1 here.2,
    mem_known_of_names_eq presents second outer inner there.1 there.2⟩

theorem links_steps :
    links (steps t l) =
      (sites l.environments).flatMap (fun site => linksWithin (sited t) site.1 site.2) ++
        (connectionsBetween (sited t)).map
          (edgeStep ((shown t l).map (·.identity)) 0) := by
  rw [steps, links_append, links_environmentsSteps (settled_of_presents presents),
    links_edgeSteps, declared_eq, component?_environmentsSteps]
  rfl

theorem contains_shown (c : Connection) :
    (((shown t l).map (·.identity)).contains c.source &&
      ((shown t l).map (·.identity)).contains c.target) = t.resolves c := by
  rw [Bool.eq_iff_iff, Bool.and_eq_true, List.contains_iff_mem, List.contains_iff_mem,
    resolves_iff_shown presents]

theorem any_sites_eq_isSome (c : Connection) :
    ((sites l.environments).any fun site => site? t c = some site) = (site? t c).isSome := by
  cases shared : site? t c with
  | none => simp
  | some site =>
      obtain ⟨source, target, found, -, here, -⟩ := exists_of_site? shared
      obtain ⟨e, outer, d, inner, environment, datacenter, -⟩ := exists_box presents found
      have : site ∈ sites l.environments := by
        refine List.mem_flatMap.mpr ⟨e, outer, List.mem_map.mpr ⟨d.name, ?_, ?_⟩⟩
        · exact List.mem_map_of_mem inner
        · rw [← environment, ← datacenter, here.1, here.2]
      simp [this]

theorem edge?_steps :
    (steps t l).filterMap (·.edge?) =
      (sites l.environments).flatMap
          (fun site => t.connections.filter fun c => site? t c = some site) ++
        (t.connections.filter fun c => (site? t c).isNone).filter t.resolves := by
  have sited : ∀ site, (linksWithin (sited t) site.1 site.2).filterMap (·.edge?) =
      t.connections.filter fun c => site? t c = some site := fun site => by
    rw [edge?_linksWithin, connectionsWithin_sited]
  rw [← filterMap_edge?_links, links_steps presents, List.filterMap_append,
    List.filterMap_flatMap, funext sited, edge?_edgeSteps, funext (contains_shown presents),
    connectionsBetween_sited]

theorem dropped?_steps :
    (steps t l).filterMap (·.dropped?) = t.connections.filter fun c => !t.resolves c := by
  have within : (sites l.environments).flatMap (fun site =>
      (linksWithin (sited t) site.1 site.2).filterMap (·.dropped?)) = [] :=
    List.flatMap_eq_nil_iff.mpr fun site _ => dropped?_linksWithin site.1 site.2
  rw [← filterMap_dropped?_links, links_steps presents, List.filterMap_append,
    List.filterMap_flatMap, within, dropped?_edgeSteps, connectionsBetween_sited,
    List.nil_append, List.filter_filter]
  refine List.filter_congr fun c _ => ?_
  rw [contains_shown presents]
  cases shared : site? t c with
  | none => simp
  | some site => simp [resolves_of_site? (t := t) (c := c) (by rw [shared]; rfl)]

theorem edge?_steps_perm :
    ((steps t l).filterMap (·.edge?)).Perm (t.connections.filter t.resolves) := by
  rw [edge?_steps presents]
  -- Of the connections that resolve, the blocks write those with a site, and the end the others.
  have first : (t.connections.filter fun c =>
      (sites l.environments).any fun site => site? t c = some site) =
      (t.connections.filter t.resolves).filter fun c => (site? t c).isSome := by
    rw [List.filter_filter]
    refine List.filter_congr fun c _ => ?_
    rw [any_sites_eq_isSome presents]
    cases shared : (site? t c).isSome with
    | false => rfl
    | true => rw [resolves_of_site? shared]; rfl
  have later : (t.connections.filter fun c => (site? t c).isNone).filter t.resolves =
      (t.connections.filter t.resolves).filter fun c => !(site? t c).isSome := by
    rw [List.filter_filter, List.filter_filter]
    refine List.filter_congr fun c _ => ?_
    rw [Option.not_isSome, Bool.and_comm]
  refine ((flatMap_filter_perm presents.sites (site? t) t.connections).append_right _).trans ?_
  rw [first, later]
  exact List.filter_append_perm _ _

theorem hasSoleNode_of_mem_shown {id : Identity}
    (member : id ∈ (shown t l).map (·.identity)) : HasSoleNode (steps t l) id := by
  obtain ⟨n, inside, rfl⟩ := List.mem_map.mp member
  refine ⟨n, ?_⟩
  rw [component?_steps]
  exact filter_eq_singleton_of_nodup_map (nodup_map_identity_shown presents) inside

theorem hasSoleNode_of_mem_edges {c : Connection}
    (member : c ∈ (steps t l).filterMap (·.edge?)) :
    HasSoleNode (steps t l) c.source ∧ HasSoleNode (steps t l) c.target := by
  have resolves := (List.mem_filter.mp ((edge?_steps_perm presents).mem_iff.mp member)).2
  obtain ⟨source, target⟩ := (resolves_iff_shown presents).mp resolves
  exact ⟨hasSoleNode_of_mem_shown presents source, hasSoleNode_of_mem_shown presents target⟩

theorem stats_steps : stats (steps t l) = fullStats t := by
  have edges := (edge?_steps_perm presents).length_eq
  rw [stats, fullStats, component?_steps, edges, dropped?_steps presents, length_shown presents,
    length_danglingWarnings]

end Presents

/-! ## The document -/

/-- The document has the lines of the steps, and among them one edge for every connection that
resolves, between the nodes of its ends. -/
structure IsDrawnInFlowchart (t : Topology) (l : Layout α) : Prop where
  content : (Flowchart.render t l).content =
    unlines (header l.direction ++ (steps t l).filterMap fun s => s.line?.map (·.text))
  edges : ((steps t l).filterMap (·.edge?)).Perm (t.connections.filter t.resolves)
  ends : ∀ c ∈ (steps t l).filterMap (·.edge?),
    HasSoleNode (steps t l) c.source ∧ HasSoleNode (steps t l) c.target

section Document

variable (presents : Presents t l) (some : t.components ≠ [])
include presents some

theorem stats_renderFlowchart : (Flowchart.render t l).stats = fullStats t := by
  rw [Flowchart.render, isEmpty_or_isEmpty_eq_false presents some, if_neg Bool.false_ne_true]
  exact stats_steps presents

theorem isDrawnInFlowchart : IsDrawnInFlowchart t l where
  content := by
    rw [Flowchart.render, isEmpty_or_isEmpty_eq_false presents some, if_neg Bool.false_ne_true]
  edges := edge?_steps_perm presents
  ends _ := hasSoleNode_of_mem_edges presents

end Document

end NetDiagram.Proofs.Drawing
