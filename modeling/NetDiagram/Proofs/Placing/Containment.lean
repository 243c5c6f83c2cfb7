import NetDiagram.Proofs.Placing.Separation

/-!
# Computed boxes stay inside

Every group of a computed layout keeps its padding free around what it holds, and its title. The
margins add up along the tree, so every box lies in the rectangle around all environments.

* `keepsMargins_layout`: the margins on every level of a computed layout.
* `isWithin_bounds`: all boxes of a tidy layout lie in its bounds.
-/

namespace NetDiagram.Proofs.Placing
open Layout

variable {s : Layout.Settings Rat} {l : Layout Rat}

/-! ## Margins on every level -/

/-- Boxes keep away from the sides of the boxes they are in, in the coordinates of the latter.
Components are centred, so nothing is asked of them sideways if they are wider than an area. -/
structure KeepsMargins (s : Layout.Settings Rat) (l : Layout Rat) : Prop where
  datacenters : ∀ e ∈ l.environments, ∀ d ∈ e.datacenters,
    HasMargins s.environmentPadding (s.headerHeight + s.environmentPadding) s.environmentPadding
      d.bounds e.bounds
  areas : ∀ e ∈ l.environments, ∀ d ∈ e.datacenters, ∀ a ∈ d.areas,
    HasMargins s.datacenterPadding (s.headerHeight + s.datacenterPadding) s.datacenterPadding
      a.bounds d.bounds
  rows : ∀ e ∈ l.environments, ∀ d ∈ e.datacenters, ∀ a ∈ d.areas, ∀ c ∈ a.components,
    s.headerHeight + s.areaPadding ≤ c.bounds.minY ∧
      c.bounds.maxY ≤ a.bounds.height - s.areaPadding
  columns : s.componentWidth ≤ s.areaWidth →
    ∀ e ∈ l.environments, ∀ d ∈ e.datacenters, ∀ a ∈ d.areas, ∀ c ∈ a.components,
      0 ≤ c.bounds.minX ∧ c.bounds.maxX ≤ s.areaWidth

theorem keepsMargins_layout (nonnegative : IsNonnegative s) (t : Topology) :
    KeepsMargins s (s.layout t) where
  datacenters e outer d middle := by
    obtain ⟨e', corner, rfl, -⟩ := exists_environment nonnegative outer
    exact margins_datacenter nonnegative middle
  areas e outer d middle a inner := by
    obtain ⟨e', d', inside, areas, corner, place⟩ := exists_datacenter nonnegative outer middle
    rw [areas] at inner
    rw [place]
    exact margins_area nonnegative inside inner corner
  rows e outer d middle a inner c member := by
    obtain ⟨e', d', -, areas, -⟩ := exists_datacenter nonnegative outer middle
    rw [areas] at inner
    obtain ⟨column, -, a', -, components, place⟩ := exists_column inner
    rw [components] at member
    rw [place]
    exact rows_component nonnegative member _
  columns narrow e outer d middle a inner c member := by
    obtain ⟨e', d', -, areas, -⟩ := exists_datacenter nonnegative outer middle
    rw [areas] at inner
    obtain ⟨column, -, a', -, components, -⟩ := exists_column inner
    rw [components] at member
    exact columns_component narrow member

/-! ## The bounds of a layout -/

theorem isWithin_merge (b c : Bounds Rat) : IsWithin b (b.merge c) ∧ IsWithin c (b.merge c) := by
  have lesser (x y : Rat) : Coordinate.lesser x y ≤ x ∧ Coordinate.lesser x y ≤ y := by
    change (if x < y then x else y) ≤ x ∧ (if x < y then x else y) ≤ y
    split
    · rename_i less
      exact ⟨le_rfl, less.le⟩
    · rename_i greater
      exact ⟨not_lt.mp greater, le_rfl⟩
  constructor
  · constructor
    · exact (lesser _ _).1
    · exact (lesser _ _).1
    · simp [Bounds.merge]
    · simp [Bounds.merge]
  · constructor
    · exact (lesser _ _).2
    · exact (lesser _ _).2
    · simp [Bounds.merge]
    · simp [Bounds.merge]

theorem isWithin_foldl_merge (es : List (EnvironmentBox Rat)) (b : Bounds Rat) :
    IsWithin b (es.foldl (fun b e => b.merge e.bounds) b) ∧
      ∀ e ∈ es, IsWithin e.bounds (es.foldl (fun b e => b.merge e.bounds) b) := by
  induction es generalizing b with
  | nil => exact ⟨.refl b, by simp⟩
  | cons e es ih =>
      obtain ⟨first, later⟩ := ih (b.merge e.bounds)
      refine ⟨(isWithin_merge b e.bounds).1.trans first, ?_⟩
      intro e' member
      rcases List.mem_cons.mp member with rfl | member
      · exact (isWithin_merge b e'.bounds).2.trans first
      · exact later e' member

theorem exists_bounds {e : EnvironmentBox Rat} (member : e ∈ l.environments) :
    ∃ whole, l.bounds? = some whole ∧ IsWithin e.bounds whole := by
  unfold Layout.bounds?
  cases boxes : l.environments with
  | nil => simp [boxes] at member
  | cons e' es =>
      obtain ⟨first, later⟩ := isWithin_foldl_merge es e'.bounds
      refine ⟨_, rfl, ?_⟩
      rw [boxes] at member
      rcases List.mem_cons.mp member with rfl | member
      · exact first
      · exact later e member

theorem isWithin_bounds (tidy : IsTidy l) {p : Place} {b : Bounds Rat} (box : BoxAt l p b) :
    ∃ whole, l.bounds? = some whole ∧ IsWithin b whole := by
  -- The first step of the way to the box leads into an environment.
  obtain ⟨i, q, rfl⟩ : ∃ i q, p = [i] ++ q := by
    cases box <;> exact ⟨_, _, rfl⟩
  obtain ⟨c, outer, inside⟩ := exists_ancestor tidy box (List.cons_ne_nil i [])
  cases outer with
  | environment first =>
      obtain ⟨whole, found, around⟩ := exists_bounds (List.mem_of_getElem? first)
      exact ⟨whole, found, inside.trans around⟩

/-! ## The statement -/

/-- The boxes of a computed layout keep the margins of the boxes they are in, and if components are
not wider than areas, no box reaches out of the bounds of the layout. -/
theorem boxes_stay_inside (nonnegative : ∀ length ∈ s.lengths, 0 ≤ length.2) (t : Topology) :
    KeepsMargins s (s.layout t) ∧
      (s.componentWidth ≤ s.areaWidth → ∀ p b, BoxAt (s.layout t) p b →
        ∃ whole, (s.layout t).bounds? = some whole ∧ IsWithin b whole) := by
  have nonnegative := isNonnegative_iff.mpr nonnegative
  refine ⟨keepsMargins_layout nonnegative t, ?_⟩
  intro narrow p b box
  exact isWithin_bounds (isTidy_layout nonnegative narrow t) box

/-- An environment with an area, a datacenter and a neighbour that hold nothing. -/
def hollow : Topology where
  name := "net"
  environments :=
    [⟨"a", [⟨"1", [⟨"z", .unknown, [⟨"x"⟩, ⟨"y"⟩]⟩, ⟨"w", .unknown, []⟩]⟩, ⟨"2", []⟩,
      ⟨"3", [⟨"z", .unknown, [⟨"v"⟩]⟩]⟩]⟩,
    ⟨"b", []⟩]
  components := []
  connections := []

theorem boxes_of_hollow :
    (∀ length ∈ (Layout.Settings.defaults : Layout.Settings Rat).lengths, 0 ≤ length.2) ∧
      (Layout.Settings.defaults : Layout.Settings Rat).componentWidth ≤
        (Layout.Settings.defaults : Layout.Settings Rat).areaWidth ∧
      KeepsMargins Layout.Settings.defaults (Layout.Settings.defaults.layout hollow) ∧
      ∃ b whole, BoxAt (Layout.Settings.defaults.layout hollow) [0, 0, 0, 1] b ∧
        (Layout.Settings.defaults.layout hollow).bounds? = some whole ∧
        b = ⟨130, 320, 270, 360⟩ ∧ whole = ⟨50, 50, 730, 760⟩ ∧ IsWithin b whole := by
  have nonnegative : ∀ length ∈ (Layout.Settings.defaults : Layout.Settings Rat).lengths,
      0 ≤ length.2 := by decide +kernel
  have narrow : (Layout.Settings.defaults : Layout.Settings Rat).componentWidth ≤
      (Layout.Settings.defaults : Layout.Settings Rat).areaWidth := by decide +kernel
  have box : BoxAt (Layout.Settings.defaults.layout hollow : Layout Rat) [0, 0, 0, 1] _ :=
    .component rfl rfl rfl rfl
  have known : (Layout.Settings.defaults.layout hollow : Layout Rat).bounds? =
      some ⟨50, 50, 730, 760⟩ := by decide +kernel
  obtain ⟨margins, inside⟩ := boxes_stay_inside nonnegative hollow
  obtain ⟨whole, found, within⟩ := inside narrow _ _ box
  have same : whole = ⟨50, 50, 730, 760⟩ := Option.some.inj (found.symm.trans known)
  exact ⟨nonnegative, narrow, margins, _, whole, box, found, by decide +kernel, same, within⟩

end NetDiagram.Proofs.Placing
