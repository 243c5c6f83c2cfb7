import NetDiagram.Proofs.Drawing.Cells

/-!
# The outline of a drawing

The cells for the boxes of a layout stand in a line. Read against the boxes, the line falls into
parts, one for each box: the cell of the box itself, and then the parts of the boxes in it, whose
cells name the first one as their parent. A box without a component has no part. This can be read
from the vertices of a drawing and also from what is written for them.

* `View`: what has to be known about cells to read them against boxes.
* `View.DrawsEnvironment`: what the cells for an environment are.
* `View.DrawsEnvironment.map`: what is read in one view can be read in another.
* `inTurn_vertices`: the vertices of every drawing are those of the environments, in turn.
-/

namespace NetDiagram.Proofs.Outline
open Cells Drawing

variable {α β γ δ κ μ : Type}

/-! ## Parts of a line of cells -/

/-- A line of cells falls into parts, one for each box. -/
inductive InTurn (draws : β → List γ → Prop) : List β → List γ → Prop
  | nil : InTurn draws [] []
  | cons {b : β} {bs : List β} {cs ds : List γ} :
      draws b cs → InTurn draws bs ds → InTurn draws (b :: bs) (cs ++ ds)

/-- How cells are read: what the layer of a diagram is called, and when a cell with a name stands
for a box in the cell with another name. -/
structure View (α κ γ : Type) where
  layer : κ
  IsCell : (parent : κ) → Figure → Bounds α → (id : κ) → γ → Prop

namespace View

variable (view : View α κ γ)

/-- The cell of a box comes first, and what is in the box has it as the parent. -/
def Draws (parent : κ) (figure : Figure) (bounds : Bounds α) (inside : κ → List γ → Prop)
    (cs : List γ) : Prop :=
  ∃ id c inner, cs = c :: inner ∧ view.IsCell parent figure bounds id c ∧ inside id inner

def DrawsComponent (t : Topology) (parent : κ) (b : Layout.ComponentBox α) (cs : List γ) : Prop :=
  match t.component? b.id with
  | none => cs = []
  | some c => view.Draws parent (.component c) b.bounds (fun _ inner => inner = []) cs

def DrawsArea (t : Topology) (parent : κ) (a : Layout.AreaBox α) : List γ → Prop :=
  view.Draws parent (.area a.name) a.bounds fun id =>
    InTurn (view.DrawsComponent t id) a.components

def DrawsDatacenter (t : Topology) (parent : κ) (d : Layout.DatacenterBox α) : List γ → Prop :=
  view.Draws parent (.datacenter d.name) d.bounds fun id => InTurn (view.DrawsArea t id) d.areas

def DrawsEnvironment (t : Topology) (e : Layout.EnvironmentBox α) : List γ → Prop :=
  view.Draws view.layer (.environment e.name) e.bounds fun id =>
    InTurn (view.DrawsDatacenter t id) e.datacenters

end View

/-! ## From one view to another -/

theorem InTurn.map {draws : β → List γ → Prop} {draws' : β → List δ → Prop} {write : γ → δ}
    (each : ∀ b cs, draws b cs → draws' b (cs.map write)) {bs : List β} {cs : List γ}
    (parts : InTurn draws bs cs) : InTurn draws' bs (cs.map write) := by
  induction parts with
  | nil => exact .nil
  | cons drawn _ ih =>
      rw [List.map_append]
      exact .cons (each _ _ drawn) ih

section Map

variable {view : View α κ γ} {view' : View α μ δ} {name : κ → μ} {write : γ → δ} {t : Topology}
  (written : ∀ parent figure bounds id c, view.IsCell parent figure bounds id c →
    view'.IsCell (name parent) figure bounds (name id) (write c))
include written

theorem View.Draws.map {parent : κ} {figure : Figure} {bounds : Bounds α}
    {inside : κ → List γ → Prop} {inside' : μ → List δ → Prop} {cs : List γ}
    (drawn : view.Draws parent figure bounds inside cs)
    (inner : ∀ id cs, inside id cs → inside' (name id) (cs.map write)) :
    view'.Draws (name parent) figure bounds inside' (cs.map write) := by
  obtain ⟨id, c, below, rfl, cell, within⟩ := drawn
  exact ⟨name id, write c, below.map write, rfl, written _ _ _ _ _ cell, inner id below within⟩

theorem View.DrawsComponent.map {parent : κ} (b : Layout.ComponentBox α) (cs : List γ)
    (drawn : view.DrawsComponent t parent b cs) :
    view'.DrawsComponent t (name parent) b (cs.map write) := by
  rw [DrawsComponent] at drawn ⊢
  cases found : t.component? b.id with
  | none =>
      rw [found] at drawn
      exact congrArg (List.map write) drawn
  | some c =>
      rw [found] at drawn
      exact Draws.map written drawn fun _ _ none => congrArg (List.map write) none

theorem View.DrawsArea.map {parent : κ} (a : Layout.AreaBox α) (cs : List γ)
    (drawn : view.DrawsArea t parent a cs) : view'.DrawsArea t (name parent) a (cs.map write) :=
  Draws.map written drawn fun _ _ => InTurn.map (DrawsComponent.map written)

theorem View.DrawsDatacenter.map {parent : κ} (d : Layout.DatacenterBox α) (cs : List γ)
    (drawn : view.DrawsDatacenter t parent d cs) :
    view'.DrawsDatacenter t (name parent) d (cs.map write) :=
  Draws.map written drawn fun _ _ => InTurn.map (DrawsArea.map written)

theorem View.DrawsEnvironment.map (layer : name view.layer = view'.layer)
    (e : Layout.EnvironmentBox α) (cs : List γ) (drawn : view.DrawsEnvironment t e cs) :
    view'.DrawsEnvironment t e (cs.map write) := by
  rw [DrawsEnvironment, ← layer]
  exact Draws.map written drawn fun _ _ => InTurn.map (DrawsDatacenter.map written)

end Map

/-! ## The vertices of a drawing -/

structure IsVertexFor (parent : CellId) (figure : Figure) (bounds : Bounds α) (id : CellId)
    (v : Vertex α) : Prop where
  parent : v.parent = parent
  figure : v.figure = figure
  bounds : v.bounds = bounds
  id : v.id = id

def vertexView : View α CellId (Vertex α) := ⟨.layer, IsVertexFor⟩

theorem inTurn_of_step {draw : Nat → List β → List (Vertex α)}
    {draws : β → List (Vertex α) → Prop} (none : ∀ n, draw n [] = [])
    (step : ∀ n b bs, ∃ vs m, draws b vs ∧ draw n (b :: bs) = vs ++ draw m bs)
    (n : Nat) (bs : List β) : InTurn draws bs (draw n bs) := by
  induction bs generalizing n with
  | nil =>
      rw [none]
      exact .nil
  | cons b bs ih =>
      obtain ⟨vs, m, drawn, parts⟩ := step n b bs
      rw [parts]
      exact .cons drawn (ih m)

theorem draws_cons {n : Nat} {parent : CellId} {figure : Figure} {bounds : Bounds α}
    {inside : CellId → List (Vertex α) → Prop} {inner : List (Vertex α)}
    (drawn : inside (figure.cellId n) inner) :
    vertexView.Draws parent figure bounds inside (⟨n, parent, figure, bounds⟩ :: inner) :=
  ⟨_, _, inner, rfl, ⟨rfl, rfl, rfl, rfl⟩, drawn⟩

variable (t : Topology)

theorem inTurn_componentVertices (parent : CellId) (n : Nat)
    (bs : List (Layout.ComponentBox α)) :
    InTurn (vertexView.DrawsComponent t parent) bs (componentVertices t parent n bs) := by
  refine inTurn_of_step (fun _ => rfl) (fun n b bs => ?_) n bs
  rw [componentVertices]
  cases found : t.component? b.id with
  | none => exact ⟨[], n, by rw [View.DrawsComponent, found], rfl⟩
  | some c =>
      refine ⟨[⟨n, parent, .component c, b.bounds⟩], n + 1, ?_, rfl⟩
      rw [View.DrawsComponent, found]
      exact draws_cons rfl

theorem inTurn_areaVertices (parent : CellId) (n : Nat) (as : List (Layout.AreaBox α)) :
    InTurn (vertexView.DrawsArea t parent) as (areaVertices t parent n as) := by
  refine inTurn_of_step (fun _ => rfl) (fun n a as => ?_) n as
  exact ⟨_, _, draws_cons (inTurn_componentVertices t (.area n) (n + 1) a.components), rfl⟩

theorem inTurn_datacenterVertices (parent : CellId) (n : Nat)
    (ds : List (Layout.DatacenterBox α)) :
    InTurn (vertexView.DrawsDatacenter t parent) ds (datacenterVertices t parent n ds) := by
  refine inTurn_of_step (fun _ => rfl) (fun n d ds => ?_) n ds
  exact ⟨_, _, draws_cons (inTurn_areaVertices t (.datacenter n) (n + 1) d.areas), rfl⟩

theorem inTurn_environmentVertices (n : Nat) (es : List (Layout.EnvironmentBox α)) :
    InTurn (vertexView.DrawsEnvironment t) es (environmentVertices t n es) := by
  refine inTurn_of_step (fun _ => rfl) (fun n e es => ?_) n es
  exact ⟨_, _, draws_cons (inTurn_datacenterVertices t (.environment n) (n + 1) e.datacenters),
    rfl⟩

theorem inTurn_vertices (l : Layout α) :
    InTurn (vertexView.DrawsEnvironment t) l.environments (Drawing.ofLayout t l).vertices :=
  inTurn_environmentVertices t 2 l.environments

end NetDiagram.Proofs.Outline
