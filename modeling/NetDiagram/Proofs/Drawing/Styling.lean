import NetDiagram.Proofs.Drawing.Cells
import NetDiagram.Proofs.Drawing.Flowchart
import NetDiagram.Proofs.Drawing.Scene
import NetDiagram.Proofs.Grouping.Connections

/-!
# Kinds are for styling only

The kinds of devices and areas come from a classifier and stay in the topology as they are. Without
them and without the name, the topology of a text is the one that a classifier makes that knows no
kinds at all. Sizes, places and counts can be read off what is left.

* `plain`: a topology without its name and without all kinds.
* `plain_ofStatements`: where the name and the classifier of some statements go.
* `layout_plain`, `fullStats_plain`: what does not depend on them.
* `classification_only_styles`: two readings of a text.
-/

namespace NetDiagram.Proofs.Drawing
open Grouping NetDiagram.Topology

/-! ## Topologies without kinds -/

def plainArea (a : Area) : Area := { a with kind := .unknown }

def plainDatacenter (d : Datacenter) : Datacenter := { d with areas := d.areas.map plainArea }

def plainEnvironment (e : Environment) : Environment :=
  { e with datacenters := e.datacenters.map plainDatacenter }

def plainComponent (c : Component) : Component :=
  { c with kind := .unknown, areaKind := .unknown }

/-- The topology without its name and without the kinds of its devices and areas. -/
def plain (t : Topology) : Topology where
  name := ""
  environments := t.environments.map plainEnvironment
  components := t.components.map plainComponent
  connections := t.connections

def plainClassifier : Classifier := ⟨[], []⟩

section Statements

variable {classifier : Classifier}

theorem plain_areasOf (paths : List Path) :
    (areasOf classifier paths).map plainArea = areasOf plainClassifier paths := by
  rw [areasOf, groups, List.map_map]
  rfl

theorem plain_datacentersOf (paths : List Path) :
    (datacentersOf classifier paths).map plainDatacenter = datacentersOf plainClassifier paths := by
  rw [datacentersOf, groups, List.map_map]
  refine List.map_congr_left fun name _ => ?_
  rw [Function.comp_apply, plainDatacenter, plain_areasOf]

theorem plain_environmentsOf (paths : List Path) :
    (environmentsOf classifier paths).map plainEnvironment =
      environmentsOf plainClassifier paths := by
  rw [environmentsOf, groups, List.map_map]
  refine List.map_congr_left fun name _ => ?_
  rw [Function.comp_apply, plainEnvironment, plain_datacentersOf]

/-- The name and the classifier go nowhere but into the name and the kinds. -/
theorem plain_ofStatements (name : String) (statements : List Source.Statement) :
    plain (ofStatements name classifier statements) =
      ofStatements "" plainClassifier statements := by
  have grouping : IsGrouping classifier _ (ofStatements name classifier statements) :=
    isGrouping_ofStatements name statements
  have grouping' : IsGrouping plainClassifier _ (ofStatements "" plainClassifier statements) :=
    isGrouping_ofStatements "" statements
  have environments : (ofStatements name classifier statements).environments.map plainEnvironment =
      (ofStatements "" plainClassifier statements).environments := by
    rw [grouping.environments, grouping'.environments, plain_environmentsOf]
  have components : (ofStatements name classifier statements).components.map plainComponent =
      (ofStatements "" plainClassifier statements).components := by
    rw [grouping.components, grouping'.components, List.map_map]
    rfl
  have connections : (ofStatements name classifier statements).connections =
      (ofStatements "" plainClassifier statements).connections := by
    rw [connections_ofStatements, connections_ofStatements]
    rfl
  rw [Topology.mk.injEq]
  exact ⟨rfl, environments, components, connections⟩

end Statements

/-! ## What does not depend on kinds -/

theorem map_identity_plain (t : Topology) :
    (plain t).components.map (·.identity) = t.components.map (·.identity) := by
  rw [plain, List.map_map]
  rfl

theorem map_path_plain (t : Topology) :
    (plain t).components.map (·.path) = t.components.map (·.path) := by
  rw [plain, List.map_map]
  rfl

theorem map_name_areas_plain (t : Topology) :
    (plain t).areas.map (·.name) = t.areas.map (·.name) := by
  rw [Topology.areas, Topology.areas, Topology.datacenters, Topology.datacenters, plain]
  simp only [List.map_flatMap, List.flatMap_map, List.flatMap_assoc, plainEnvironment,
    plainDatacenter, List.map_map]
  rfl

theorem statistics_plain (t : Topology) : (plain t).statistics = t.statistics := by
  have environments : (plain t).environments.map (·.name) = t.environments.map (·.name) := by
    rw [plain, List.map_map]
    rfl
  have datacenters : (plain t).datacenters.map (·.name) = t.datacenters.map (·.name) := by
    rw [Topology.datacenters, Topology.datacenters, plain]
    simp only [List.map_flatMap, List.flatMap_map, plainEnvironment, List.map_map]
    rfl
  rw [Topology.statistics, environments, datacenters, map_name_areas_plain, plain, List.length_map]
  rfl

theorem fullStats_plain (t : Topology) : fullStats (plain t) = fullStats t := by
  have resolves : (plain t).resolves = t.resolves := by
    funext c
    rw [Bool.eq_iff_iff, resolves_iff, resolves_iff, map_identity_plain]
  have components : (plain t).components.length = t.components.length := List.length_map _
  rw [fullStats, fullStats, length_danglingWarnings, length_danglingWarnings, resolves, components]
  rfl

section Layouts

variable {α : Type} [Coordinate α] (s : Layout.Settings α)

theorem datacenterHeight_plain (d : Datacenter) :
    s.datacenterHeight (plainDatacenter d) = s.datacenterHeight d := by
  rw [Layout.Settings.datacenterHeight, plainDatacenter, List.map_map]
  rfl

theorem environmentSize_plain (e : Environment) :
    s.environmentSize (plainEnvironment e) = s.environmentSize e := by
  have columns : Layout.Settings.columns (plainEnvironment e) = Layout.Settings.columns e := by
    have areas : (fun d : Datacenter => d.areas.length) ∘ plainDatacenter = (·.areas.length) :=
      funext fun _ => List.length_map _
    rw [Layout.Settings.columns, plainEnvironment, List.map_map, areas]
    rfl
  have heights : s.datacenterHeight ∘ plainDatacenter = s.datacenterHeight :=
    funext (datacenterHeight_plain s)
  rw [Layout.Settings.environmentSize, columns, plainEnvironment, List.map_map, heights,
    List.length_map]
  rfl

theorem placeAreas_plain (d : Datacenter) :
    s.placeAreas (plainDatacenter d) = s.placeAreas d := by
  rw [Layout.Settings.placeAreas, plainDatacenter, List.zipIdx_map, List.map_map]
  rfl

theorem placeDatacenters_plain (width y : α) (ds : List Datacenter) :
    s.placeDatacenters width y (ds.map plainDatacenter) = s.placeDatacenters width y ds := by
  induction ds generalizing y with
  | nil => rfl
  | cons d ds ih =>
      rw [List.map_cons, Layout.Settings.placeDatacenters, datacenterHeight_plain,
        placeAreas_plain, ih]
      rfl

theorem placeEnvironment_plain (corner : Point α) (e : Environment) :
    s.placeEnvironment corner (plainEnvironment e) = s.placeEnvironment corner e := by
  rw [Layout.Settings.placeEnvironment, environmentSize_plain, plainEnvironment,
    placeDatacenters_plain]
  rfl

theorem placeEnvironments_plain (corner : Point α) (es : List Environment) :
    s.placeEnvironments corner (es.map plainEnvironment) = s.placeEnvironments corner es := by
  induction es generalizing corner with
  | nil => rfl
  | cons e es ih =>
      rw [List.map_cons, Layout.Settings.placeEnvironments, placeEnvironment_plain, ih]
      rfl

theorem layout_plain (t : Topology) : s.layout (plain t) = s.layout t := by
  rw [Layout.Settings.layout, plain, placeEnvironments_plain]
  rfl

end Layouts

/-! ## Two readings of a text -/

/-- Two topologies are the same but for their names and for kinds. -/
structure IsRestyled (t t' : Topology) : Prop where
  alike : plain t = plain t'
  identities : t.components.map (·.identity) = t'.components.map (·.identity)
  paths : t.components.map (·.path) = t'.components.map (·.path)
  connections : t.connections = t'.connections
  statistics : t.statistics = t'.statistics

/-- They have the same layout, and all documents for it count alike. -/
structure IsDrawnAlike (s : Layout.Settings Float32) (background : String) (t t' : Topology) :
    Prop where
  layout : s.layout t = s.layout t'
  cells : (Cells.render t (s.layout t)).stats = (Cells.render t' (s.layout t')).stats
  flowchart : (Flowchart.render t (s.layout t)).stats = (Flowchart.render t' (s.layout t')).stats
  scene : (Scene.render background t (s.layout t)).stats =
    (Scene.render background t' (s.layout t')).stats

theorem isRestyled_of_plain_eq {t t' : Topology} (same : plain t = plain t') :
    IsRestyled t t' where
  alike := same
  identities := by rw [← map_identity_plain, same, map_identity_plain]
  paths := by rw [← map_path_plain, same, map_path_plain]
  connections := by
    have connections : (plain t).connections = (plain t').connections := by rw [same]
    exact connections
  statistics := by rw [← statistics_plain, same, statistics_plain]

theorem isDrawnAlike_of_plain_eq (s : Layout.Settings Float32) (background : String)
    {t t' : Topology} (same : plain t = plain t') (grouped : WellGrouped t)
    (grouped' : WellGrouped t') : IsDrawnAlike s background t t' := by
  have layout : s.layout t = s.layout t' := by rw [← layout_plain, same, layout_plain]
  have stats : fullStats t = fullStats t' := by rw [← fullStats_plain, same, fullStats_plain]
  have presents := presents_layout s grouped
  have presents' := presents_layout s grouped'
  have some := grouped.components
  have some' := grouped'.components
  constructor
  · exact layout
  · rw [stats_renderCells presents some, stats, stats_renderCells presents' some']
  · rw [stats_renderFlowchart presents some, stats, stats_renderFlowchart presents' some']
  · rw [stats_renderScene background presents some, stats,
      stats_renderScene background presents' some']

/-- Both readings of a text fail with the same problems, or both succeed with related results. -/
def SameOutcome (related : Topology → Topology → Prop) :
    Except ParseError Topology → Except ParseError Topology → Prop
  | .error e, .error e' => e = e'
  | .ok t, .ok t' => related t t'
  | _, _ => False

/-- Whether a text can be read is decided before the name and the classifier come in. -/
theorem ofText_error_or_ok (text : String) :
    (∃ e, ∀ name classifier, Topology.ofText name classifier text = .error e) ∨
      ∃ statements, ∀ name classifier,
        Topology.ofText name classifier text = .ok (ofStatements name classifier statements) := by
  unfold Topology.ofText
  cases Source.survey text.toList with
  | error e => exact .inl ⟨e, fun _ _ => rfl⟩
  | ok found => exact .inr ⟨found.statements, fun _ _ => rfl⟩

/-- Under two names and two classifiers a text fails alike, or gives topologies that differ in
names and kinds only, with the same layout and with equal counts in all documents. -/
theorem classification_only_styles (text name name' : String)
    (classifier classifier' : Classifier) :
    SameOutcome
      (fun t t' => IsRestyled t t' ∧
        ∀ (s : Layout.Settings Float32) (background : String), IsDrawnAlike s background t t')
      (Topology.ofText name classifier text) (Topology.ofText name' classifier' text) := by
  obtain ⟨e, failed⟩ | ⟨statements, parsed⟩ := ofText_error_or_ok text
  · rw [failed, failed]
    rfl
  · have same : plain (ofStatements name classifier statements) =
        plain (ofStatements name' classifier' statements) := by
      rw [plain_ofStatements, plain_ofStatements]
    have grouped := wellGrouped_ofText (parsed name classifier)
    have grouped' := wellGrouped_ofText (parsed name' classifier')
    rw [parsed, parsed]
    exact ⟨isRestyled_of_plain_eq same,
      fun s background => isDrawnAlike_of_plain_eq s background same grouped grouped'⟩

end NetDiagram.Proofs.Drawing
