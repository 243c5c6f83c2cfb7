import NetDiagram.Proofs.Drawing.Ends
import NetDiagram.Proofs.Notation.Values

/-!
# All documents show the same

Each kind of document decides on its own which connections it can draw: by the vertices, by the
declared nodes together with the sites of both ends, or by the boxes. The check of a topology looks
at the components only. For well grouped topologies they all decide alike, and this can be read from
the documents.

* `DocumentsShow`: what it is for all documents to show the same.
* `connections_add_dropped`: every connection is shown or dropped.
* `documents_show_what_resolves`: all documents show the components and what resolves.
-/

namespace NetDiagram.Proofs.Drawing
open Bonds Markup Notation Outline

/-! ## What is read -/

/-- What the documents say can be read from them, and all of them show the same components, in the
same order, and the same connections. -/
structure DocumentsShow (background : String) (t : Topology) (l : Layout Float32)
    (components : List Component) (connections : List Connection) : Prop where
  cells : ∃ root, (∀ root', IsDocument (Cells.render t l).content root' ↔ root' = root) ∧
    CellsShow components connections (cellsIn root)
  lines : ∃ clauses, (∀ clauses',
      IsFlowchart (Flowchart.render t l).content l.direction clauses' ↔ clauses' = clauses) ∧
    ClausesShow components connections clauses
  items : ∃ document, (∀ document',
      IsJson (Scene.render background t l).content document' ↔ document' = document) ∧
    ItemsShow (extents t l) connections document
  boxes : (extents t l).filterMap (·.component?) = components.map (·.identity)

theorem component?_extents (t : Topology) (l : Layout Float32) :
    (extents t l).filterMap (·.component?) = (shown t l).map (·.identity) := by
  rw [← extentsOf_boxes, extentsOf, List.filterMap_map, ← component?_boxes]
  rfl

theorem documentsShow (background : String) {t : Topology} {l : Layout Float32}
    (presents : Presents t l) (known : t.components ≠ []) :
    DocumentsShow background t l (shown t l) (t.connections.filter t.resolves) where
  cells := by
    obtain ⟨page, read⟩ := isDocument_render t l
    exact ⟨_, read, cellsShow presents known ((read _).mpr rfl)⟩
  lines := ⟨_, isFlowchart_render presents known, clausesShow presents⟩
  items := by
    refine ⟨_, fun document' => ?_, itemsShow presents background⟩
    rw [(isDrawnInScene background presents known).content]
    exact isJson_documentJson_iff background _ document'
  boxes := component?_extents t l

/-! ## The statement -/

theorem connections_add_dropped (t : Topology) :
    (fullStats t).connections + (fullStats t).dropped = t.connections.length := by
  rw [fullStats, length_danglingWarnings, ← List.length_append]
  exact (List.filter_append_perm t.resolves t.connections).length_eq

/-- The documents of a well grouped topology count alike: all components, as dropped the
connections that the check calls dangling, and as connections all others. Each document has one
edge for every connection that resolves and no others, between the nodes of its ends, as can be read
from it. -/
theorem documents_show_what_resolves (s : Layout.Settings Float32) (background : String)
    {t : Topology} (grouped : WellGrouped t) :
    (Cells.render t (s.layout t)).stats = fullStats t ∧
      (Flowchart.render t (s.layout t)).stats = fullStats t ∧
      (Scene.render background t (s.layout t)).stats = fullStats t ∧
      (fullStats t).connections + (fullStats t).dropped = t.connections.length ∧
      IsDrawnInCells t (s.layout t) ∧
      IsDrawnInFlowchart t (s.layout t) ∧
      IsDrawnInScene background t (s.layout t) ∧
      ∃ components, components.Perm t.components ∧
        DocumentsShow background t (s.layout t) components (t.connections.filter t.resolves) := by
  have presents := presents_layout s grouped
  have some := grouped.components
  exact ⟨stats_renderCells presents some, stats_renderFlowchart presents some,
    stats_renderScene background presents some, connections_add_dropped t,
    isDrawnInCells presents some, isDrawnInFlowchart presents some,
    isDrawnInScene background presents some, _, shown_perm presents,
    documentsShow background presents some⟩

def sampleSource : Component := Topology.declare {} ⟨"a", "1", "z", "x"⟩

def sampleTarget : Component := Topology.declare {} ⟨"a", "2", "z", "y"⟩

/-- Two components in two datacenters, which are connected twice, with a connection of one of them
to itself and a dangling one. -/
def sample : Topology :=
  let x := sampleSource
  let y := sampleTarget
  { name := "net"
    environments :=
      [⟨"a", [⟨"1", [⟨"z", .unknown, [x.identity]⟩]⟩, ⟨"2", [⟨"z", .unknown, [y.identity]⟩]⟩]⟩]
    components := [x, y]
    connections :=
      [.between 1 x y, .between 2 x x, ⟨3, x.identity, ⟨"gone"⟩, "x", "gone"⟩, .between 1 x y] }

theorem wellGrouped_sample : WellGrouped sample where
  components := by decide +kernel
  identities := by decide +kernel
  held := by decide +kernel
  placed := by decide +kernel
  environments := by decide +kernel
  datacenters := by decide +kernel

def sampleEdges : List Connection :=
  [.between 1 sampleSource sampleTarget, .between 2 sampleSource sampleSource,
    .between 1 sampleSource sampleTarget]

theorem documents_of_sample :
    WellGrouped sample ∧ fullStats sample = ⟨2, 3, 1⟩ ∧
      (Cells.render sample (Layout.Settings.defaults.layout sample)).stats = ⟨2, 3, 1⟩ ∧
      (Flowchart.render sample
        (Layout.Settings.defaults.layout sample : Layout Float32)).stats = ⟨2, 3, 1⟩ ∧
      (Scene.render "#ffffff" sample (Layout.Settings.defaults.layout sample)).stats =
        ⟨2, 3, 1⟩ ∧
      (∃ components, components.Perm [sampleSource, sampleTarget] ∧
        DocumentsShow "#ffffff" sample (Layout.Settings.defaults.layout sample) components
          sampleEdges) ∧
      ∃ clauses, IsFlowchart
          (Flowchart.render sample (Layout.Settings.defaults.layout sample : Layout Float32)).content
          .leftToRight clauses ∧
        (clauses.filterMap joined?).Perm
          [("a__1__z__x", "x 连接 y", "a__2__z__y"), ("a__1__z__x", "x 连接 x", "a__1__z__x"),
            ("a__1__z__x", "x 连接 y", "a__2__z__y")] := by
  have counts : fullStats sample = ⟨2, 3, 1⟩ := by decide +kernel
  have edges : sample.connections.filter sample.resolves = sampleEdges := by decide +kernel
  have ends : sampleEdges.map endsOf =
      [("a__1__z__x", "x 连接 y", "a__2__z__y"), ("a__1__z__x", "x 连接 x", "a__1__z__x"),
        ("a__1__z__x", "x 连接 y", "a__2__z__y")] := by decide +kernel
  obtain ⟨cells, flowchart, scene, -, -, -, -, components, perm, shown⟩ :=
    documents_show_what_resolves .defaults "#ffffff" wellGrouped_sample
  rw [edges] at shown
  obtain ⟨clauses, read, lines⟩ := shown.lines
  exact ⟨wellGrouped_sample, counts, cells.trans counts, flowchart.trans counts,
    scene.trans counts, ⟨components, perm, shown⟩, clauses, (read clauses).mpr rfl,
    ends ▸ lines.edges⟩

end NetDiagram.Proofs.Drawing
