import NetDiagram.Document.Cells
import NetDiagram.Proofs.Drawing.Presentation

/-!
# What a draw.io drawing shows

The vertices of a drawing are numbered one after another, so no two share a name, and those of
components show the components of the layout in its order. An edge is drawn where both ends have a
vertex.

* `map_connection_edges`: which connections have an edge.
* `joinsEnds_of_mem_edges`: where an edge starts and ends.
* `stats_cells`: what is counted.
-/

namespace NetDiagram.Proofs.Drawing
open Cells

variable {α : Type} {t : Topology} {l : Layout α}

/-! ## Vertices -/

/-- The vertices are numbered one after another. -/
def Numbered (number : Nat) (vertices : List (Vertex α)) : Prop :=
  vertices.map (·.number) = List.range' number vertices.length

theorem Numbered.group {number : Nat} {parent : CellId} {figure : Figure} {bounds : Bounds α}
    {inner outer : List (Vertex α)} (first : Numbered (number + 1) inner)
    (later : Numbered (number + 1 + inner.length) outer) :
    Numbered number (⟨number, parent, figure, bounds⟩ :: (inner ++ outer)) := by
  unfold Numbered at *
  rw [List.map_cons, List.map_append, first, later, List.length_cons, List.length_append,
    List.range'_succ, List.range'_append_1]

theorem numbered_componentVertices (parent : CellId) (number : Nat)
    (bs : List (Layout.ComponentBox α)) :
    Numbered number (componentVertices t parent number bs) := by
  induction bs generalizing number with
  | nil => rfl
  | cons b bs ih =>
      rw [componentVertices]
      split
      · exact ih number
      · have none : Numbered (number + 1) ([] : List (Vertex α)) := rfl
        exact none.group (ih (number + 1))

theorem numbered_areaVertices (parent : CellId) (number : Nat) (as : List (Layout.AreaBox α)) :
    Numbered number (areaVertices t parent number as) := by
  induction as generalizing number with
  | nil => rfl
  | cons a as ih => exact (numbered_componentVertices _ _ _).group (ih _)

theorem numbered_datacenterVertices (parent : CellId) (number : Nat)
    (ds : List (Layout.DatacenterBox α)) :
    Numbered number (datacenterVertices t parent number ds) := by
  induction ds generalizing number with
  | nil => rfl
  | cons d ds ih => exact (numbered_areaVertices _ _ _).group (ih _)

theorem numbered_environmentVertices (number : Nat) (es : List (Layout.EnvironmentBox α)) :
    Numbered number (environmentVertices t number es) := by
  induction es generalizing number with
  | nil => rfl
  | cons e es ih => exact (numbered_datacenterVertices _ _ _).group (ih _)

def shownBy? : Figure → Option Component
  | .component c => some c
  | _ => none

def shownIn (vertices : List (Vertex α)) : List Component :=
  vertices.filterMap fun v => shownBy? v.figure

def identities (vertices : List (Vertex α)) : List Identity :=
  vertices.filterMap (·.figure.identity?)

theorem identities_eq (vertices : List (Vertex α)) :
    identities vertices = (shownIn vertices).map (·.identity) := by
  rw [identities, shownIn, List.map_filterMap]
  congr 1
  funext v
  cases v.figure <;> rfl

theorem shownIn_append (vs ws : List (Vertex α)) :
    shownIn (vs ++ ws) = shownIn vs ++ shownIn ws :=
  List.filterMap_append

theorem shownIn_componentVertices (parent : CellId) (number : Nat)
    (bs : List (Layout.ComponentBox α)) :
    shownIn (componentVertices t parent number bs) = known t bs := by
  induction bs generalizing number with
  | nil => rfl
  | cons b bs ih =>
      cases found : t.component? b.id with
      | none =>
          rw [componentVertices, found, known_cons_of_none found]
          exact ih number
      | some c =>
          rw [componentVertices, found, known_cons_of_some found]
          exact congrArg (c :: ·) (ih (number + 1))

theorem shownIn_areaVertices (parent : CellId) (number : Nat)
    (as : List (Layout.AreaBox α)) :
    shownIn (areaVertices t parent number as) = known t (as.flatMap (·.components)) := by
  induction as generalizing number with
  | nil => rfl
  | cons a as ih =>
      rw [List.flatMap_cons, known_append, ← ih, ← shownIn_componentVertices,
        ← shownIn_append]
      rfl

theorem shownIn_datacenterVertices (parent : CellId) (number : Nat)
    (ds : List (Layout.DatacenterBox α)) :
    shownIn (datacenterVertices t parent number ds) =
      known t (ds.flatMap fun d => d.areas.flatMap (·.components)) := by
  induction ds generalizing number with
  | nil => rfl
  | cons d ds ih =>
      rw [List.flatMap_cons, known_append, ← ih, ← shownIn_areaVertices,
        ← shownIn_append]
      rfl

theorem shownIn_environmentVertices (number : Nat) (es : List (Layout.EnvironmentBox α)) :
    shownIn (environmentVertices t number es) =
      known t (es.flatMap fun e => e.datacenters.flatMap fun d =>
        d.areas.flatMap (·.components)) := by
  induction es generalizing number with
  | nil => rfl
  | cons e es ih =>
      rw [List.flatMap_cons, known_append, ← ih, ← shownIn_datacenterVertices,
        ← shownIn_append]
      rfl

theorem shownIn_ofLayout : shownIn (Drawing.ofLayout t l).vertices = shown t l :=
  shownIn_environmentVertices 2 l.environments

theorem identities_ofLayout :
    identities (Drawing.ofLayout t l).vertices = (shown t l).map (·.identity) := by
  rw [identities_eq, shownIn_ofLayout]

theorem number_eq_of_text_eq {f g : Figure} {m n : Nat}
    (same : (f.cellId m).text = (g.cellId n).text) : m = n := by
  cases f <;> cases g <;> simp [Figure.cellId, CellId.text, ← String.toList_inj] at same <;>
    exact toDigits_injective same

theorem nodup_map_text_vertices : ((Drawing.ofLayout t l).vertices.map (·.id.text)).Nodup := by
  have numbers : (Drawing.ofLayout t l).vertices.map (·.number) = List.range' 2 _ :=
    numbered_environmentVertices 2 l.environments
  have distinct : ((Drawing.ofLayout t l).vertices.map (·.number)).Nodup := by
    rw [numbers]
    exact List.nodup_range'
  refine List.Pairwise.map _ (fun v w other same => other ?_) (List.pairwise_map.mp distinct)
  exact number_eq_of_text_eq same

/-! ## Edges -/

theorem vertex_of_node? {vertices : List (Vertex α)} {id : Identity} {cell : CellId}
    (named : node? vertices id = some cell) :
    ∃ v ∈ vertices, v.figure.identity? = some id ∧ v.id = cell := by
  obtain ⟨v, found, rfl⟩ := Option.map_eq_some_iff.mp named
  obtain ⟨member, shows⟩ := mem_of_findRev? found
  exact ⟨v, member, of_decide_eq_true shows, rfl⟩

theorem isSome_node?_vertices_iff {vertices : List (Vertex α)} {id : Identity} :
    (node? vertices id).isSome = true ↔ id ∈ identities vertices := by
  simp [node?, identities]

theorem edges_eq_linksFrom (vertices : List (Vertex α)) (number : Nat) (cs : List Connection) :
    Cells.edges vertices number cs =
      linksFrom (node? vertices) (fun n c ends => ⟨n, ends.1, ends.2, c⟩) number cs := by
  induction cs generalizing number with
  | nil => rfl
  | cons c cs ih =>
      have same : ends? vertices c = both? (node? vertices) c := rfl
      rw [Cells.edges, linksFrom, same]
      cases both? (node? vertices) c with
      | none => exact ih number
      | some ends => exact congrArg _ (ih (number + 1))

/-! ## The drawing of a layout that presents the topology -/

/-- A name is that of the only vertex that shows the component with the given identity. -/
def NamesNode (d : Drawing α) (id : Identity) (cell : CellId) : Prop :=
  ∃ v, d.vertices.filter (fun w => w.figure.identity? = some id) = [v] ∧
    d.vertices.filter (fun w => w.id.text = cell.text) = [v]

section Presents

variable (presents : Presents t l)
include presents

theorem isSome_ends?_drawing (c : Connection) :
    (ends? (Drawing.ofLayout t l).vertices c).isSome = t.resolves c := by
  have same : ends? (Drawing.ofLayout t l).vertices c =
      both? (node? (Drawing.ofLayout t l).vertices) c := rfl
  rw [same, isSome_both?, Bool.eq_iff_iff, Bool.and_eq_true, isSome_node?_vertices_iff,
    isSome_node?_vertices_iff, identities_ofLayout, resolves_iff_shown presents]

theorem map_connection_edges :
    (Drawing.ofLayout t l).edges.map (·.connection) = t.connections.filter t.resolves := by
  rw [Drawing.ofLayout, edges_eq_linksFrom, map_linksFrom fun _ _ _ => rfl]
  exact congrArg (t.connections.filter ·) (funext (isSome_ends?_drawing presents))

theorem namesNode_of_node? {id : Identity} {cell : CellId}
    (found : node? (Drawing.ofLayout t l).vertices id = some cell) :
    NamesNode (Drawing.ofLayout t l) id cell := by
  obtain ⟨v, member, shows, rfl⟩ := vertex_of_node? found
  refine ⟨v, filter_eq_singleton ?_ member shows,
    filter_eq_singleton_of_nodup_map nodup_map_text_vertices member⟩
  rw [← identities, identities_ofLayout]
  exact nodup_map_identity_shown presents

theorem namesNode_of_mem_edges {e : Edge} (member : e ∈ (Drawing.ofLayout t l).edges) :
    NamesNode (Drawing.ofLayout t l) e.connection.source e.source ∧
      NamesNode (Drawing.ofLayout t l) e.connection.target e.target := by
  rw [Drawing.ofLayout, edges_eq_linksFrom] at member
  obtain ⟨n, c, ends, found, rfl⟩ := exists_of_mem_linksFrom member
  obtain ⟨source, target⟩ := both?_eq_some found
  exact ⟨namesNode_of_node? presents source, namesNode_of_node? presents target⟩

theorem stats_cells : (Drawing.ofLayout t l).stats = fullStats t := by
  have components : (Drawing.ofLayout t l).components.length = t.components.length := by
    have same := congrArg List.length (identities_ofLayout (t := t) (l := l))
    rwa [List.length_map, length_shown presents] at same
  have edges := congrArg List.length (map_connection_edges presents)
  have dropped : (Drawing.ofLayout t l).dropped = t.connections.filter fun c => !t.resolves c := by
    refine List.filter_congr fun c _ => ?_
    rw [← isSome_ends?_drawing presents, Option.not_isSome]
    rfl
  rw [List.length_map] at edges
  rw [Drawing.stats, fullStats, length_danglingWarnings, components, edges, dropped]

end Presents

/-! ## The document -/

/-- The document has the cells of the drawing, and among them one edge for every connection that
resolves, between the vertices of its ends. -/
structure IsDrawnInCells (t : Topology) (l : Layout Float32) : Prop where
  content : (Cells.render t l).content =
    let drawing := Drawing.ofLayout t l
    Xml.document (documentElement t.name (page l)
      (drawing.vertices.map (·.element) ++ drawing.edges.map (·.element)))
  edges : (Drawing.ofLayout t l).edges.map (·.connection) = t.connections.filter t.resolves
  ends : ∀ e ∈ (Drawing.ofLayout t l).edges,
    NamesNode (Drawing.ofLayout t l) e.connection.source e.source ∧
      NamesNode (Drawing.ofLayout t l) e.connection.target e.target

section Document

variable {l : Layout Float32} (presents : Presents t l) (some : t.components ≠ [])
include presents some

theorem stats_renderCells : (Cells.render t l).stats = fullStats t := by
  rw [Cells.render, isEmpty_or_isEmpty_eq_false presents some, if_neg Bool.false_ne_true]
  exact stats_cells presents

theorem isDrawnInCells : IsDrawnInCells t l where
  content := by
    rw [Cells.render, isEmpty_or_isEmpty_eq_false presents some, if_neg Bool.false_ne_true]
  edges := map_connection_edges presents
  ends _ := namesNode_of_mem_edges presents

end Document

end NetDiagram.Proofs.Drawing
