import Mathlib.Algebra.Ring.Nat
import Mathlib.Data.List.Perm.Basic
import NetDiagram.Proofs.Drawing.Cells
import NetDiagram.Proofs.Drawing.Flowchart
import NetDiagram.Proofs.Drawing.Scene

/-!
# Drawn or left out

A drawing draws a connection or leaves it out, and counts both. Cells and scenes go through the
connections one by one, so each of them counts once. A flowchart goes through its blocks, and takes
the connections within one datacenter where a block bears the two names of their site. A tree that
does not follow the paths of its components may have no such block, or several, and then these
connections are passed over or taken several times.

* `edges_append_dropped_perm`, `arrows_append_dropped_perm`: what becomes of a connection in cells
  and in scenes.
* `treated_steps_perm`: how often a flowchart takes a connection.
* `renamed`, `doubled`: a connection that a flowchart loses, and one that it draws twice.
-/

namespace NetDiagram.Proofs.Drawing
open Flowchart

variable {α β κ : Type} {t : Topology} {l : Layout α}

def accounted (d : Document) : Nat := d.stats.connections + d.stats.dropped

/-- A document counts the connections that are drawn and those that are left out, and every
connection is one of them, once. -/
structure CountsOnce (t : Topology) (d : Document) (drawn omitted : List Connection) : Prop where
  connections : d.stats.connections = drawn.length
  dropped : d.stats.dropped = omitted.length
  outcomes : (drawn ++ omitted).Perm t.connections

theorem CountsOnce.accounted_eq {d : Document} {drawn omitted : List Connection}
    (once : CountsOnce t d drawn omitted) : accounted d = t.connections.length := by
  rw [accounted, once.connections, once.dropped, ← List.length_append]
  exact once.outcomes.length_eq

/-! ## Cells and scenes -/

theorem both?_append_perm (node? : Identity → Option β) (cs : List Connection) :
    ((cs.filter fun c => (both? node? c).isSome) ++
      cs.filter fun c => (both? node? c).isNone).Perm cs := by
  have left (c : Connection) : (both? node? c).isNone = !(both? node? c).isSome :=
    (Option.not_isSome _).symm
  rw [funext left]
  exact List.filter_append_perm _ cs

theorem edges_append_dropped_perm (t : Topology) (l : Layout α) :
    ((Cells.Drawing.ofLayout t l).edges.map (·.connection) ++
      (Cells.Drawing.ofLayout t l).dropped).Perm t.connections := by
  rw [Cells.Drawing.ofLayout, edges_eq_linksFrom, map_linksFrom fun _ _ _ => rfl]
  exact both?_append_perm _ t.connections

theorem arrows_append_dropped_perm [Coordinate α] (t : Topology) (l : Layout α) :
    ((Scene.ofLayout t l).arrows.map (·.connection) ++
      (Scene.ofLayout t l).dropped).Perm t.connections := by
  rw [Scene.ofLayout, arrowsFrom_eq_linksFrom, map_linksFrom fun _ _ _ => rfl]
  exact both?_append_perm _ t.connections

/-! ## Steps of a flowchart -/

def connection? : Step → Option Connection
  | .write (.edge _ c) => some c
  | .drop c => some c
  | _ => none

/-- The connections that steps draw or leave out, in the order of the steps. -/
def treated (steps : List Step) : List Connection := steps.filterMap connection?

theorem treated_append (steps steps' : List Step) :
    treated (steps ++ steps') = treated steps ++ treated steps' :=
  List.filterMap_append

theorem treated_links (steps : List Step) : treated (links steps) = treated steps := by
  rw [treated, links, List.filterMap_filter]
  congr 1
  funext step
  rcases step with (line | id | c)
  · cases line <;> rfl
  · rfl
  · rfl

theorem treated_edgeSteps (known : List Identity) (depth : Nat) (cs : List Connection) :
    treated (cs.map (edgeStep known depth)) = cs := by
  have each (c : Connection) : connection? (edgeStep known depth c) = some c := by
    unfold edgeStep
    split <;> rfl
  rw [treated, List.filterMap_map]
  exact (congrArg (cs.filterMap ·) (funext each)).trans List.filterMap_some

theorem edge?_append_dropped?_perm (steps : List Step) :
    (steps.filterMap (·.edge?) ++ steps.filterMap (·.dropped?)).Perm (treated steps) := by
  induction steps with
  | nil => exact .nil
  | cons step steps ih =>
      rcases step with (line | id | c)
      · cases line with
        | edge depth c => exact ih.cons c
        | _ => exact ih
      · exact ih
      · exact List.perm_middle.trans (ih.cons c)

/-! ## Blocks -/

variable {connections : List Sited} {environment : String}

theorem treated_datacenterSteps (before : List Identity) (path : BlockPath)
    (d : Layout.DatacenterBox α) :
    treated (datacenterSteps t connections environment before path d) =
      connectionsWithin environment d.name connections := by
  rw [← treated_links, datacenterSteps, List.cons_append, links_block, links_append,
    links_areasSteps, links_edgeSteps, List.nil_append, treated_edgeSteps]

theorem treated_datacentersSteps (before : List Identity) (outer : BlockPath) (position : Nat)
    (ds : List (Layout.DatacenterBox α)) :
    treated (datacentersSteps t connections environment before outer position ds) =
      (ds.map (·.name)).flatMap (connectionsWithin environment · connections) := by
  induction ds generalizing before position with
  | nil => rfl
  | cons d ds ih =>
      rw [datacentersSteps, treated_append, treated_datacenterSteps, ih, List.map_cons,
        List.flatMap_cons]

theorem treated_environmentsSteps (before : List Identity) (position : Nat)
    (es : List (Layout.EnvironmentBox α)) :
    treated (environmentsSteps t connections before position es) =
      (sites es).flatMap fun site => connectionsWithin site.1 site.2 connections := by
  induction es generalizing before position with
  | nil => rfl
  | cons e es ih =>
      have first : sites (e :: es) = (e.datacenters.map (·.name)).map (e.name, ·) ++ sites es :=
        List.flatMap_cons
      rw [environmentsSteps, treated_append, ih, environmentSteps, ← treated_links, links_block,
        treated_links, treated_datacentersSteps, first, List.flatMap_append,
        List.flatMap_map (e.name, ·)]

theorem treated_steps :
    treated (steps t l) =
      (sites l.environments).flatMap
          (fun site => t.connections.filter fun c => site? t c = some site) ++
        t.connections.filter fun c => (site? t c).isNone := by
  rw [steps, treated_append, treated_environmentsSteps, treated_edgeSteps,
    connectionsBetween_sited]
  congr 2
  funext site
  exact connectionsWithin_sited site.1 site.2

/-! ## How often a connection is taken -/

/-- How often a value is taken that is taken at its key, or at the end if it has none. -/
def visits [DecidableEq κ] (keys : List κ) : Option κ → Nat
  | none => 1
  | some k => keys.count k

theorem filter_eq_flatMap_replicate (p : β → Bool) (xs : List β) :
    xs.filter p = xs.flatMap fun x => List.replicate (p x).toNat x := by
  induction xs with
  | nil => rfl
  | cons x xs ih =>
      rw [List.filter_cons, List.flatMap_cons, ← ih]
      cases p x <;> rfl

theorem visits_cons [DecidableEq κ] (k : κ) (ks : List κ) (key : Option κ) :
    visits (k :: ks) key = (decide (key = some k)).toNat + visits ks key := by
  cases key with
  | none => rfl
  | some k' =>
      by_cases here : k' = k
      · simp [visits, here, Nat.add_comm]
      · simp [visits, here, Ne.symm here]

theorem flatMap_filter_append_perm [DecidableEq κ] (keys : List κ) (f : β → Option κ)
    (xs : List β) :
    ((keys.flatMap fun k => xs.filter fun x => f x = some k) ++
      xs.filter fun x => (f x).isNone).Perm
      (xs.flatMap fun x => List.replicate (visits keys (f x)) x) := by
  -- One key more is one visit more for the values that have it.
  induction keys with
  | nil =>
      have alone (x : β) : visits ([] : List κ) (f x) = (f x).isNone.toNat := by
        cases f x <;> rfl
      rw [List.flatMap_nil, List.nil_append, filter_eq_flatMap_replicate]
      simp only [alone]
      exact .refl _
  | cons k ks ih =>
      simp only [visits_cons, List.replicate_add]
      rw [List.flatMap_cons, List.append_assoc, filter_eq_flatMap_replicate]
      exact (ih.append_left _).trans (List.flatMap_append_perm xs _ _)

section Multiples

variable [DecidableEq β] {n : β → Nat} {xs : List β}

theorem count_flatMap_replicate (x : β) :
    (xs.flatMap fun y => List.replicate (n y) y).count x = n x * xs.count x := by
  induction xs with
  | nil => rfl
  | cons y ys ih =>
      rw [List.flatMap_cons, List.count_append, ih, List.count_replicate, List.count_cons]
      by_cases here : y = x
      · simp [here, Nat.mul_add, Nat.add_comm]
      · simp [here]

theorem flatMap_replicate_perm_iff :
    (xs.flatMap fun x => List.replicate (n x) x).Perm xs ↔ ∀ x ∈ xs, n x = 1 := by
  simp only [List.perm_iff_count, count_flatMap_replicate]
  constructor
  · intro same x member
    exact Nat.eq_of_mul_eq_mul_right (List.count_pos_iff.mpr member)
      ((same x).trans (Nat.one_mul _).symm)
  · intro once x
    by_cases member : x ∈ xs
    · rw [once x member, Nat.one_mul]
    · rw [List.count_eq_zero_of_not_mem member, Nat.mul_zero]

end Multiples

theorem treated_steps_perm :
    (treated (steps t l)).Perm (t.connections.flatMap fun c =>
      List.replicate (visits (sites l.environments) (site? t c)) c) := by
  rw [treated_steps]
  exact flatMap_filter_append_perm _ _ _

/-! ## The tree -/

/-- The names of the datacenters in the tree of a topology, with those of their environments. -/
def treeSites (t : Topology) : List (String × String) :=
  t.environments.flatMap fun e => (e.datacenters.map (·.name)).map (e.name, ·)

/-- How many places a flowchart has for a connection: the datacenters with the names of its site,
or the end if it has no site. -/
def placesFor (t : Topology) (c : Connection) : Nat := visits (treeSites t) (site? t c)

section Computed

variable (s : Layout.Settings Float32)

theorem sites_layout (t : Topology) : sites (s.layout t).environments = treeSites t :=
  sites_placeEnvironments s _ t.environments

theorem outcomes_steps_perm (t : Topology) :
    ((steps t (s.layout t)).filterMap (·.edge?) ++
      (steps t (s.layout t)).filterMap (·.dropped?)).Perm
      (t.connections.flatMap fun c => List.replicate (placesFor t c) c) := by
  have taken := treated_steps_perm (t := t) (l := s.layout t)
  rw [sites_layout] at taken
  exact (edge?_append_dropped?_perm _).trans taken

variable {t : Topology} (some : t.components ≠ []) (grouped : t.environments ≠ [])
include some grouped

theorem isEmpty_or_isEmpty_layout : (t.isEmpty || (s.layout t).isEmpty) = false := by
  refine isEmpty_or_isEmpty_of_ne_nil some fun none => grouped ?_
  cases environments : t.environments with
  | nil => rfl
  | cons e es =>
      rw [Layout.Settings.layout, environments] at none
      cases none

theorem countsOnce_cells :
    CountsOnce t (Cells.render t (s.layout t))
      ((Cells.Drawing.ofLayout t (s.layout t)).edges.map (·.connection))
      (Cells.Drawing.ofLayout t (s.layout t)).dropped := by
  rw [Cells.render, isEmpty_or_isEmpty_layout s some grouped, if_neg Bool.false_ne_true]
  exact ⟨(List.length_map _).symm, rfl, edges_append_dropped_perm t _⟩

theorem countsOnce_scene (background : String) :
    CountsOnce t (Scene.render background t (s.layout t))
      ((Scene.ofLayout t (s.layout t)).arrows.map (·.connection))
      (Scene.ofLayout t (s.layout t)).dropped := by
  rw [Scene.render, isEmpty_or_isEmpty_layout s some grouped, if_neg Bool.false_ne_true]
  exact ⟨(List.length_map _).symm, rfl, arrows_append_dropped_perm t _⟩

theorem stats_flowchart :
    (Flowchart.render t (s.layout t)).stats = stats (steps t (s.layout t)) := by
  rw [Flowchart.render, isEmpty_or_isEmpty_layout s some grouped, if_neg Bool.false_ne_true]

theorem accounted_flowchart :
    accounted (Flowchart.render t (s.layout t)) = (t.connections.map (placesFor t)).sum := by
  have total := (outcomes_steps_perm s t).length_eq
  simp only [List.length_append, List.length_flatMap, List.length_replicate] at total
  rw [accounted, stats_flowchart s some grouped]
  exact total

theorem countsOnce_flowchart_iff :
    CountsOnce t (Flowchart.render t (s.layout t)) ((steps t (s.layout t)).filterMap (·.edge?))
        ((steps t (s.layout t)).filterMap (·.dropped?)) ↔
      ∀ c ∈ t.connections, placesFor t c = 1 := by
  have outcomes := outcomes_steps_perm s t
  rw [← flatMap_replicate_perm_iff]
  constructor
  · exact fun once => outcomes.symm.trans once.outcomes
  · intro same
    refine ⟨?_, ?_, outcomes.trans same⟩
    all_goals rw [stats_flowchart s some grouped, stats]

end Computed

/-! ## The statement -/

/-- Cells and scenes count every connection once. A flowchart counts it once for every place that
it has for it, so it counts every connection once if and only if it has one place for each. -/
theorem connections_counted_by_places (s : Layout.Settings Float32) (background : String)
    {t : Topology} (some : t.components ≠ []) (grouped : t.environments ≠ []) :
    CountsOnce t (Cells.render t (s.layout t))
        ((Cells.Drawing.ofLayout t (s.layout t)).edges.map (·.connection))
        (Cells.Drawing.ofLayout t (s.layout t)).dropped ∧
      CountsOnce t (Scene.render background t (s.layout t))
        ((Scene.ofLayout t (s.layout t)).arrows.map (·.connection))
        (Scene.ofLayout t (s.layout t)).dropped ∧
      accounted (Flowchart.render t (s.layout t)) = (t.connections.map (placesFor t)).sum ∧
      (CountsOnce t (Flowchart.render t (s.layout t))
          ((steps t (s.layout t)).filterMap (·.edge?))
          ((steps t (s.layout t)).filterMap (·.dropped?)) ↔
        ∀ c ∈ t.connections, placesFor t c = 1) :=
  ⟨countsOnce_cells s some grouped, countsOnce_scene s some grouped background,
    accounted_flowchart s some grouped, countsOnce_flowchart_iff s some grouped⟩

/-- Two connected components of the datacenter `1`, in a tree with the given datacenters. -/
def pairIn (datacenters : List Datacenter) : Topology :=
  let x := Topology.declare {} ⟨"a", "1", "z", "x"⟩
  let y := Topology.declare {} ⟨"a", "1", "z", "y"⟩
  { name := "net"
    environments := [⟨"a", datacenters⟩]
    components := [x, y]
    connections := [.between 1 x y] }

def zone : Area := ⟨"z", .unknown, [⟨"a__1__z__x"⟩, ⟨"a__1__z__y"⟩]⟩

def renamed : Topology := pairIn [⟨"2", [zone]⟩]

def doubled : Topology := pairIn [⟨"1", [zone]⟩, ⟨"1", []⟩]

def usualFlowchart (t : Topology) : Document :=
  Flowchart.render t (Layout.Settings.defaults.layout t : Layout Float32)

theorem flowchart_loses_and_doubles :
    (renamed.connections.length = 1 ∧ accounted (usualFlowchart renamed) = 0) ∧
      doubled.connections.length = 1 ∧ accounted (usualFlowchart doubled) = 2 := by
  have lost : (renamed.connections.map (placesFor renamed)).sum = 0 := by decide +kernel
  have twice : (doubled.connections.map (placesFor doubled)).sum = 2 := by decide +kernel
  refine ⟨⟨rfl, ?_⟩, rfl, ?_⟩
  · rw [usualFlowchart, accounted_flowchart _ (by decide) (by decide), lost]
  · rw [usualFlowchart, accounted_flowchart _ (by decide) (by decide), twice]

theorem counts_of_doubled :
    doubled.components ≠ [] ∧ doubled.environments ≠ [] ∧
      accounted (Cells.render doubled (Layout.Settings.defaults.layout doubled)) = 1 ∧
      accounted (Scene.render "#ffffff" doubled (Layout.Settings.defaults.layout doubled)) = 1 ∧
      accounted (usualFlowchart doubled) = 2 := by
  have some : doubled.components ≠ [] := by decide
  have grouped : doubled.environments ≠ [] := by decide
  have twice : (doubled.connections.map (placesFor doubled)).sum = 2 := by decide +kernel
  obtain ⟨cells, scene, flowchart, -⟩ :=
    connections_counted_by_places .defaults "#ffffff" some grouped
  exact ⟨some, grouped, cells.accounted_eq, scene.accounted_eq, flowchart.trans twice⟩

end NetDiagram.Proofs.Drawing
