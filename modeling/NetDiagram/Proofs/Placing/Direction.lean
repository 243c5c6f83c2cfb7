import NetDiagram.Proofs.Placing.Separation

/-!
# The direction of a layout

Environments stand in a row or in a column. What is in an environment does not depend on where it
is, and where it is depends only on the corner that the environments before it lead to. So the two
layouts of a topology differ in nothing but the places of the environments.

* `map_placeEnvironments`: what does not depend on the corner is the same on the whole way.
* `corner_placeEnvironments`: what every step keeps of a corner holds of all corners on the way.
* `along_corner`: where an environment of a row or a column starts.
* `direction_moves_environments`: what the two layouts of a topology have in common.
-/

namespace NetDiagram.Proofs.Placing
open Layout

/-! ## Environments on their way -/

section Environments

variable {α : Type} [Coordinate α]

def facing (direction : Direction) (s : Layout.Settings α) : Layout.Settings α :=
  { s with direction }

variable (s : Layout.Settings α) (direction : Direction)

theorem placeDatacenters_facing (width y : α) (ds : List Datacenter) :
    (facing direction s).placeDatacenters width y ds = s.placeDatacenters width y ds := by
  induction ds generalizing y with
  | nil => rfl
  | cons d ds ih =>
      rw [Layout.Settings.placeDatacenters, Layout.Settings.placeDatacenters, ih]
      rfl

theorem placeEnvironment_facing (corner : Point α) (e : Environment) :
    (facing direction s).placeEnvironment corner e = s.placeEnvironment corner e := by
  rw [Layout.Settings.placeEnvironment, placeDatacenters_facing]
  rfl

variable {s}

theorem map_placeEnvironments {β : Type} {read : EnvironmentBox α → β} {content : Environment → β}
    (each : ∀ corner e, read (s.placeEnvironment corner e) = content e) (corner : Point α)
    (es : List Environment) : (s.placeEnvironments corner es).map read = es.map content := by
  induction es generalizing corner with
  | nil => rfl
  | cons e es ih => rw [Layout.Settings.placeEnvironments, List.map_cons, List.map_cons, each, ih]

theorem corner_placeEnvironments (passed : Point α → Prop)
    (step : ∀ corner size, passed corner → passed (s.advance corner size)) {corner : Point α}
    (start : passed corner) {es : List Environment} {b : EnvironmentBox α}
    (member : b ∈ s.placeEnvironments corner es) : passed b.bounds.corner := by
  induction es generalizing corner with
  | nil => cases member
  | cons e es ih =>
      rcases List.mem_cons.mp member with rfl | later
      · exact start
      · exact ih (step _ _ start) later

def content (e : EnvironmentBox α) : String × List (DatacenterBox α) := (e.name, e.datacenters)

theorem map_content_layout (s : Layout.Settings α) (t : Topology) :
    ((facing direction s).layout t).environments.map content =
      t.environments.map fun e => content (s.placeEnvironment ⟨s.originX, s.originY⟩ e) := by
  refine map_placeEnvironments (fun corner e => ?_) _ t.environments
  rw [placeEnvironment_facing]
  rfl

/-- The layouts have the environments of the topology in its order and with the same contents. In
one of them no environment is moved down, and in the other one none is moved aside. -/
structure IsTurned (t : Topology) (s : Layout.Settings α) (row column : Layout α) : Prop where
  names : row.environments.map (·.name) = t.environments.map (·.name)
  contents : row.environments.map content = column.environments.map content
  level : ∀ e ∈ row.environments, e.bounds.minY = s.originY
  aligned : ∀ e ∈ column.environments, e.bounds.minX = s.originX

theorem isTurned_layout (s : Layout.Settings α) (t : Topology) :
    IsTurned t s ((facing .leftToRight s).layout t) ((facing .topToBottom s).layout t) where
  names := map_placeEnvironments (fun _ _ => rfl) _ t.environments
  contents := (map_content_layout .leftToRight s t).trans
    (map_content_layout .topToBottom s t).symm
  level _ member :=
    corner_placeEnvironments (fun p => p.y = s.originY) (fun _ _ => id) rfl member
  aligned _ member :=
    corner_placeEnvironments (fun p => p.x = s.originX) (fun _ _ => id) rfl member

end Environments

/-! ## Where environments start -/

variable {s : Layout.Settings Rat}

def extentAlong (direction : Direction) (size : Size Rat) : Rat :=
  match direction with
  | .leftToRight => size.width
  | .topToBottom => size.height

theorem along_advance (corner : Point Rat) (size : Size Rat) :
    along s.direction (s.advance corner size) =
      along s.direction corner + (extentAlong s.direction size + s.environmentGap) := by
  rw [Layout.Settings.advance]
  cases s.direction with
  | leftToRight => exact add_assoc _ _ _
  | topToBottom => exact add_assoc _ _ _

theorem along_corner {corner : Point Rat} {es : List Environment} {i : Nat}
    {b : EnvironmentBox Rat} (found : (s.placeEnvironments corner es)[i]? = some b) :
    along s.direction b.bounds.corner = along s.direction corner +
      (((s.placeEnvironments corner es).take i).map fun b =>
        extentAlong s.direction b.bounds.size + s.environmentGap).sum := by
  -- The environments after the first are placed from the corner that the first leads to.
  induction es generalizing corner i with
  | nil => cases found
  | cons e es ih =>
      rw [Layout.Settings.placeEnvironments] at found ⊢
      cases i with
      | zero =>
          cases found
          exact (add_zero _).symm
      | succ i =>
          rw [List.getElem?_cons_succ] at found
          rw [ih found, along_advance, List.take_succ_cons, List.map_cons, List.sum_cons, add_assoc]

theorem size_placeEnvironment (direction : Direction) (corner : Point Rat) (e : Environment) :
    ((facing direction s).placeEnvironment corner e).bounds.size = s.environmentSize e :=
  congrArg₂ Size.mk (width_ofTopLeft _ _) (height_ofTopLeft _ _)

/-- The layouts have environments of the same sizes, each of them the gap after the one before. -/
structure IsSpaced (t : Topology) (s : Layout.Settings Rat) (row column : Layout Rat) : Prop where
  rowSizes : row.environments.map (·.bounds.size) = t.environments.map s.environmentSize
  columnSizes : column.environments.map (·.bounds.size) = t.environments.map s.environmentSize
  rowStarts : ∀ i e, row.environments[i]? = some e → e.bounds.minX =
    s.originX + ((row.environments.take i).map fun e => e.bounds.width + s.environmentGap).sum
  columnStarts : ∀ i e, column.environments[i]? = some e → e.bounds.minY =
    s.originY + ((column.environments.take i).map fun e => e.bounds.height + s.environmentGap).sum

theorem isSpaced_layout (s : Layout.Settings Rat) (t : Topology) :
    IsSpaced t s ((facing .leftToRight s).layout t) ((facing .topToBottom s).layout t) where
  rowSizes := map_placeEnvironments (size_placeEnvironment _) _ t.environments
  columnSizes := map_placeEnvironments (size_placeEnvironment _) _ t.environments
  rowStarts _ _ found := along_corner found
  columnStarts _ _ found := along_corner found

/-- A row and a column of the environments of a topology differ in nothing but where these are. If
sums are exact, the environments have equal sizes, and each starts where the extents and gaps of
those before it end. -/
theorem direction_moves_environments (t : Topology) :
    (∀ s : Layout.Settings Float32,
      IsTurned t s ((facing .leftToRight s).layout t) ((facing .topToBottom s).layout t)) ∧
    ∀ s : Layout.Settings Rat,
      IsTurned t s ((facing .leftToRight s).layout t) ((facing .topToBottom s).layout t) ∧
      IsSpaced t s ((facing .leftToRight s).layout t) ((facing .topToBottom s).layout t) :=
  ⟨fun s => isTurned_layout s t, fun s => ⟨isTurned_layout s t, isSpaced_layout s t⟩⟩

end NetDiagram.Proofs.Placing
