import Mathlib.Algebra.Order.BigOperators.Group.List
import Mathlib.Data.Rat.Cast.Order
import Mathlib.Tactic.Linarith
import Mathlib.Tactic.Ring
import NetDiagram.Layout.Placement
import NetDiagram.Proofs.Placing.Nesting

/-!
# Boxes inside the boxes of a topology

Sizes are computed from the inside and places from the outside, by different formulas. Where no
length is negative the two agree: what a group holds ends before the padding at its right and at
its bottom begins, and boxes in a row do not reach into each other.

* `margins_component`, `margins_area`, `margins_datacenter`: the margins inside every group.
* `separated_components`, `separated_areas`, `separated_datacenters`: the boxes of a group.
-/

namespace NetDiagram.Proofs.Placing
open Layout

/-! ## Coordinates that are rational numbers -/

@[simp] theorem ofCount_rat (n : Nat) : (Coordinate.ofCount n : Rat) = n := rfl

@[simp] theorem neutral_rat : (Coordinate.neutral : Rat) = 0 := rfl

@[simp] theorem greater_rat : (Coordinate.greater : Rat → Rat → Rat) = max := by
  funext a b
  change (if b < a then a else b) = max a b
  split
  · rename_i less
    exact (max_eq_left less.le).symm
  · rename_i greater
    exact (max_eq_right (not_lt.mp greater)).symm

@[simp] theorem width_ofTopLeft (corner : Point Rat) (size : Size Rat) :
    (Bounds.ofTopLeft corner size).width = size.width :=
  add_sub_cancel_left corner.x size.width

@[simp] theorem height_ofTopLeft (corner : Point Rat) (size : Size Rat) :
    (Bounds.ofTopLeft corner size).height = size.height :=
  add_sub_cancel_left corner.y size.height

theorem le_foldl_max {β : Type} [LinearOrder β] (xs : List β) (least : β) :
    least ≤ xs.foldl max least ∧ ∀ x ∈ xs, x ≤ xs.foldl max least := by
  induction xs generalizing least with
  | nil => simp
  | cons x xs ih =>
      obtain ⟨above, all⟩ := ih (max least x)
      refine ⟨(le_max_left _ _).trans above, fun y member => ?_⟩
      rcases List.mem_cons.mp member with rfl | later
      · exact (le_max_right _ _).trans above
      · exact all y later

/-! ## Settings -/

/-- No length is negative. The origin may be anywhere. -/
structure IsNonnegative (s : Layout.Settings Rat) : Prop where
  environmentGap : 0 ≤ s.environmentGap
  environmentPadding : 0 ≤ s.environmentPadding
  datacenterPadding : 0 ≤ s.datacenterPadding
  datacenterSpacing : 0 ≤ s.datacenterSpacing
  areaPadding : 0 ≤ s.areaPadding
  areaSpacing : 0 ≤ s.areaSpacing
  areaWidth : 0 ≤ s.areaWidth
  headerHeight : 0 ≤ s.headerHeight
  componentWidth : 0 ≤ s.componentWidth
  componentHeight : 0 ≤ s.componentHeight
  componentSpacing : 0 ≤ s.componentSpacing

theorem isNonnegative_iff {s : Layout.Settings Rat} :
    IsNonnegative s ↔ ∀ length ∈ s.lengths, 0 ≤ length.2 := by
  simp only [Layout.Settings.lengths, List.forall_mem_cons, List.not_mem_nil]
  constructor
  · rintro ⟨⟩
    simp_all
  · rintro ⟨_, _, _, _, _, _, _, _, _, _, _, -⟩
    constructor <;> assumption

/-! ## Rows -/

section Rows

variable {size gap : Rat} (someSize : 0 ≤ size) (someGap : 0 ≤ gap)
include someSize someGap

theorem row_end_le_start {i j : Nat} (before : i < j) :
    i * (size + gap) + size ≤ j * (size + gap) := by
  have steps : (i + 1 : Rat) ≤ j := by exact_mod_cast before
  have := mul_le_mul_of_nonneg_right steps (add_nonneg someSize someGap)
  linarith

theorem row_end_le_length {i n : Nat} (inside : i < n) :
    i * (size + gap) + size ≤ n * size + (n - 1 : Nat) * gap := by
  have boxes : (i + 1 : Rat) ≤ n := by exact_mod_cast inside
  have gaps : (i : Rat) ≤ (n - 1 : Nat) := by exact_mod_cast Nat.le_sub_one_of_lt inside
  have := mul_le_mul_of_nonneg_right boxes someSize
  have := mul_le_mul_of_nonneg_right gaps someGap
  linarith

end Rows

/-- How far a box stays away from the sides, the top and the bottom of the box it is in. -/
structure HasMargins (side top bottom : Rat) (inner outer : Bounds Rat) : Prop where
  left : side ≤ inner.minX
  top : top ≤ inner.minY
  right : inner.maxX ≤ outer.width - side
  bottom : inner.maxY ≤ outer.height - bottom

theorem HasMargins.fitsIn {side top bottom : Rat} {inner outer : Bounds Rat}
    (margins : HasMargins side top bottom inner outer) (someSide : 0 ≤ side) (someTop : 0 ≤ top)
    (someBottom : 0 ≤ bottom) : FitsIn inner outer where
  left := someSide.trans margins.left
  top := someTop.trans margins.top
  right := margins.right.trans (sub_le_self _ someSide)
  bottom := margins.bottom.trans (sub_le_self _ someBottom)

theorem pairwise_zipIdx_map {β γ : Type} {place : β × Nat → γ} {apart : γ → γ → Prop}
    (each : ∀ x y i j, i < j → apart (place (x, i)) (place (y, j))) (xs : List β) :
    (xs.zipIdx.map place).Pairwise apart := by
  rw [List.pairwise_iff_getElem]
  intro i j hi hj before
  simpa using each _ _ i j before

variable {s : Layout.Settings Rat}

/-! ## Where boxes are placed -/

theorem exists_row {a : Area} {b : ComponentBox Rat} (member : b ∈ s.placeComponents a) :
    ∃ row < a.components.length, b.bounds = .ofTopLeft
      ⟨max ((s.areaWidth - s.componentWidth) / 2) 0, s.headerHeight + s.areaPadding
        + row * (s.componentHeight + s.componentSpacing)⟩
      ⟨s.componentWidth, s.componentHeight⟩ := by
  obtain ⟨⟨id, row⟩, inside, rfl⟩ := List.mem_map.mp member
  refine ⟨row, (List.mem_zipIdx' inside).1, ?_⟩
  simp only [greater_rat]
  rfl

theorem columns_component (narrow : s.componentWidth ≤ s.areaWidth) {a : Area}
    {b : ComponentBox Rat} (member : b ∈ s.placeComponents a) :
    0 ≤ b.bounds.minX ∧ b.bounds.maxX ≤ s.areaWidth := by
  obtain ⟨row, -, place⟩ := exists_row member
  have free : 0 ≤ s.areaWidth - s.componentWidth := sub_nonneg.mpr narrow
  have left : max ((s.areaWidth - s.componentWidth) / 2) 0 ≤ s.areaWidth - s.componentWidth :=
    max_le (by linarith) free
  rw [place]
  constructor
  · exact le_max_right _ _
  · simp only [Bounds.ofTopLeft]
    linarith

theorem exists_column {d : Datacenter} {b : AreaBox Rat} (member : b ∈ s.placeAreas d) :
    ∃ column < d.areas.length, ∃ a ∈ d.areas, b.components = s.placeComponents a ∧
      b.bounds = .ofTopLeft
        ⟨s.datacenterPadding + column * (s.areaWidth + s.areaSpacing),
          s.headerHeight + s.datacenterPadding⟩
        (s.areaSize a.components.length) := by
  obtain ⟨⟨a, column⟩, inside, rfl⟩ := List.mem_map.mp member
  exact ⟨column, (List.mem_zipIdx' inside).1, a, List.fst_mem_of_mem_zipIdx inside, rfl, rfl⟩

theorem height_area_le {d : Datacenter} {a : Area} (member : a ∈ d.areas) :
    s.headerHeight + 2 * s.datacenterPadding + (s.areaSize a.components.length).height ≤
      s.datacenterHeight d := by
  have highest := (le_foldl_max (d.areas.map fun a => (s.areaSize a.components.length).height)
    ((0 : Nat) : Rat)).2 _ (List.mem_map_of_mem member)
  simp only [Layout.Settings.datacenterHeight, greater_rat, ofCount_rat]
  push_cast at highest ⊢
  linarith

theorem length_areas_le {e : Environment} {d : Datacenter} (member : d ∈ e.datacenters) :
    d.areas.length ≤ Layout.Settings.columns e :=
  (le_foldl_max _ 0).2 _ (List.mem_map_of_mem member)

def stackHeight (s : Layout.Settings Rat) (ds : List Datacenter) : Rat :=
  (ds.map s.datacenterHeight).sum + (ds.length - 1 : Nat) * s.datacenterSpacing

theorem height_environment (e : Environment) :
    (s.environmentSize e).height =
      s.headerHeight + 2 * s.environmentPadding + stackHeight s e.datacenters := by
  have total : (e.datacenters.map s.datacenterHeight).foldl (· + ·) Coordinate.neutral =
      (e.datacenters.map s.datacenterHeight).sum := List.sum_eq_foldl.symm
  simp only [Layout.Settings.environmentSize, stackHeight, total, ofCount_rat]
  push_cast
  ring

theorem stackHeight_cons (d : Datacenter) {ds : List Datacenter} (more : ds ≠ []) :
    stackHeight s (d :: ds) =
      s.datacenterHeight d + s.datacenterSpacing + stackHeight s ds := by
  have one : 1 ≤ ds.length := List.length_pos_iff.mpr more
  simp only [stackHeight, List.map_cons, List.sum_cons, List.length_cons, Nat.add_sub_cancel]
  push_cast [Nat.cast_sub one]
  ring

section Margins

variable (nonnegative : IsNonnegative s)
include nonnegative

/-! ## Components in an area -/

theorem rows_component {a : Area} {b : ComponentBox Rat} (member : b ∈ s.placeComponents a)
    (corner : Point Rat) :
    s.headerHeight + s.areaPadding ≤ b.bounds.minY ∧ b.bounds.maxY ≤
      (Bounds.ofTopLeft corner (s.areaSize a.components.length)).height - s.areaPadding := by
  obtain ⟨row, inside, place⟩ := exists_row member
  have height := row_end_le_length nonnegative.componentHeight nonnegative.componentSpacing inside
  rw [place]
  constructor
  · have above := mul_nonneg (Nat.cast_nonneg (α := Rat) row)
      (add_nonneg nonnegative.componentHeight nonnegative.componentSpacing)
    exact le_add_of_nonneg_right above
  · have rows : max a.components.length 1 = a.components.length := by omega
    rw [height_ofTopLeft]
    simp only [Bounds.ofTopLeft, Layout.Settings.areaSize, ofCount_rat, rows]
    push_cast
    linarith

/-- The components of an area keep its padding below its title and at its bottom. At its sides
they need not, but if they are not wider than the area, they stay in it. -/
theorem margins_component (narrow : s.componentWidth ≤ s.areaWidth) {a : Area}
    {b : ComponentBox Rat} (member : b ∈ s.placeComponents a) (corner : Point Rat) :
    HasMargins 0 (s.headerHeight + s.areaPadding) s.areaPadding b.bounds
      (.ofTopLeft corner (s.areaSize a.components.length)) := by
  obtain ⟨top, bottom⟩ := rows_component nonnegative member corner
  obtain ⟨left, right⟩ := columns_component narrow member
  refine ⟨left, top, ?_, bottom⟩
  rw [width_ofTopLeft, sub_zero]
  exact right

theorem separated_components (a : Area) :
    ((s.placeComponents a).map (·.bounds)).Pairwise Separated := by
  rw [List.pairwise_map]
  refine pairwise_zipIdx_map (fun _ _ i j before => .inr (.inr (.inl ?_))) a.components
  have apart := row_end_le_start nonnegative.componentHeight nonnegative.componentSpacing before
  simp only [Bounds.ofTopLeft, ofCount_rat]
  linarith

/-! ## Areas in a datacenter -/

/-- The areas of a datacenter keep its padding on all sides and below its title, because no
datacenter of the environment has more of them than there are columns. -/
theorem margins_area {e : Environment} {d : Datacenter} (inside : d ∈ e.datacenters)
    {b : AreaBox Rat} (member : b ∈ s.placeAreas d) (corner : Point Rat) :
    HasMargins s.datacenterPadding (s.headerHeight + s.datacenterPadding) s.datacenterPadding
      b.bounds (.ofTopLeft corner
        ⟨(s.environmentSize e).width - 2 * s.environmentPadding, s.datacenterHeight d⟩) := by
  obtain ⟨column, few, a, among, -, place⟩ := exists_column member
  have width := row_end_le_length nonnegative.areaWidth nonnegative.areaSpacing
    (few.trans_le (length_areas_le inside))
  have height := height_area_le (s := s) among
  rw [place]
  constructor
  · have before := mul_nonneg (Nat.cast_nonneg (α := Rat) column)
      (add_nonneg nonnegative.areaWidth nonnegative.areaSpacing)
    exact le_add_of_nonneg_right before
  · exact le_rfl
  · rw [width_ofTopLeft]
    simp only [Bounds.ofTopLeft, Layout.Settings.areaSize, Layout.Settings.environmentSize,
      ofCount_rat]
    push_cast
    linarith
  · rw [height_ofTopLeft]
    simp only [Bounds.ofTopLeft]
    linarith

theorem separated_areas (d : Datacenter) :
    ((s.placeAreas d).map (·.bounds)).Pairwise Separated := by
  rw [List.pairwise_map]
  refine pairwise_zipIdx_map (fun _ _ i j before => .inl ?_) d.areas
  have apart := row_end_le_start nonnegative.areaWidth nonnegative.areaSpacing before
  simp only [Bounds.ofTopLeft, Layout.Settings.areaSize, ofCount_rat]
  linarith

/-! ## Datacenters in an environment -/

theorem datacenterHeight_nonneg (d : Datacenter) : 0 ≤ s.datacenterHeight d := by
  have highest := (le_foldl_max (d.areas.map fun a => (s.areaSize a.components.length).height)
    ((0 : Nat) : Rat)).1
  simp only [Layout.Settings.datacenterHeight, greater_rat, ofCount_rat]
  push_cast at highest ⊢
  linarith [nonnegative.headerHeight, nonnegative.datacenterPadding]

theorem stackHeight_nonneg (ds : List Datacenter) : 0 ≤ stackHeight s ds := by
  have heights : 0 ≤ (ds.map s.datacenterHeight).sum := by
    refine List.sum_nonneg fun height member => ?_
    obtain ⟨d, -, rfl⟩ := List.mem_map.mp member
    exact datacenterHeight_nonneg nonnegative d
  have gaps := mul_nonneg (Nat.cast_nonneg (α := Rat) (ds.length - 1))
    nonnegative.datacenterSpacing
  exact add_nonneg heights gaps

theorem height_le_stackHeight (d : Datacenter) (ds : List Datacenter) :
    s.datacenterHeight d ≤ stackHeight s (d :: ds) := by
  cases ds with
  | nil => simp [stackHeight]
  | cons d' ds =>
      rw [stackHeight_cons d (List.cons_ne_nil d' ds)]
      linarith [nonnegative.datacenterSpacing, stackHeight_nonneg nonnegative (d' :: ds)]

theorem exists_level {width y : Rat} {ds : List Datacenter} {b : DatacenterBox Rat}
    (member : b ∈ s.placeDatacenters width y ds) :
    ∃ d ∈ ds, b.areas = s.placeAreas d ∧ ∃ top, y ≤ top ∧
      top + s.datacenterHeight d ≤ y + stackHeight s ds ∧
      b.bounds = .ofTopLeft ⟨s.environmentPadding, top⟩ ⟨width, s.datacenterHeight d⟩ := by
  induction ds generalizing y with
  | nil => cases member
  | cons d ds ih =>
      rcases List.mem_cons.mp member with rfl | later
      · have height := height_le_stackHeight nonnegative d ds
        exact ⟨d, List.mem_cons_self, rfl, y, le_rfl, by linarith, rfl⟩
      · obtain ⟨d', among, areas, top, above, below, place⟩ := ih later
        rw [stackHeight_cons d (List.ne_nil_of_mem among)]
        change y + (s.datacenterHeight d + s.datacenterSpacing) ≤ top at above
        change _ ≤ y + (s.datacenterHeight d + s.datacenterSpacing) + _ at below
        have height := datacenterHeight_nonneg nonnegative d
        have spacing := nonnegative.datacenterSpacing
        exact ⟨d', List.mem_cons_of_mem _ among, areas, top, by linarith, by linarith, place⟩

theorem margins_datacenter {corner : Point Rat} {e : Environment} {b : DatacenterBox Rat}
    (member : b ∈ (s.placeEnvironment corner e).datacenters) :
    HasMargins s.environmentPadding (s.headerHeight + s.environmentPadding) s.environmentPadding
      b.bounds (s.placeEnvironment corner e).bounds := by
  obtain ⟨d, -, -, top, above, below, place⟩ := exists_level nonnegative member
  have height := height_environment (s := s) e
  rw [place]
  constructor
  · exact le_rfl
  · exact above
  · simp only [Layout.Settings.placeEnvironment, width_ofTopLeft]
    simp only [Bounds.ofTopLeft, ofCount_rat]
    push_cast
    linarith
  · simp only [Layout.Settings.placeEnvironment, height_ofTopLeft, height]
    simp only [Bounds.ofTopLeft]
    linarith

theorem separated_datacenters (width y : Rat) (ds : List Datacenter) :
    ((s.placeDatacenters width y ds).map (·.bounds)).Pairwise Separated := by
  induction ds generalizing y with
  | nil => exact .nil
  | cons d ds ih =>
      refine List.pairwise_cons.mpr ⟨fun bounds later => ?_, ih _⟩
      obtain ⟨b, member, rfl⟩ := List.mem_map.mp later
      obtain ⟨d', -, -, top, above, -, place⟩ := exists_level nonnegative member
      have spacing := nonnegative.datacenterSpacing
      change y + (s.datacenterHeight d + s.datacenterSpacing) ≤ top at above
      rw [place]
      refine .inr (.inr (.inl ?_))
      change y + s.datacenterHeight d ≤ top
      linarith

end Margins

end NetDiagram.Proofs.Placing
