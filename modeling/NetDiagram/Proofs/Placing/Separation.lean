import NetDiagram.Proofs.Placing.Margins

/-!
# Computed boxes keep apart

Environments follow each other in one of two directions, and inside them the direction changes from
level to level. Still no two boxes of a whole layout reach into each other, unless one of them is
in the other by the tree.

* `isTidy_layout`: every computed layout is tidy.
* `boxes_keep_apart`: so its boxes keep apart.
-/

namespace NetDiagram.Proofs.Placing
open Layout

variable {s : Layout.Settings Rat}

/-! ## Environments -/

def along (direction : Direction) (p : Point Rat) : Rat :=
  match direction with
  | .leftToRight => p.x
  | .topToBottom => p.y

def endAlong (direction : Direction) (b : Bounds Rat) : Rat :=
  match direction with
  | .leftToRight => b.maxX
  | .topToBottom => b.maxY

theorem separated_of_endAlong_le {direction : Direction} {b c : Bounds Rat}
    (before : endAlong direction b ≤ along direction c.corner) : Separated b c := by
  cases direction with
  | leftToRight => exact .inl before
  | topToBottom => exact .inr (.inr (.inl before))

section Environments

variable (nonnegative : IsNonnegative s)
include nonnegative

theorem width_environment_nonneg (e : Environment) : 0 ≤ (s.environmentSize e).width := by
  have areas := mul_nonneg (Nat.cast_nonneg (α := Rat) (Layout.Settings.columns e))
    nonnegative.areaWidth
  have gaps := mul_nonneg (Nat.cast_nonneg (α := Rat) (Layout.Settings.columns e - 1))
    nonnegative.areaSpacing
  simp only [Layout.Settings.environmentSize, ofCount_rat]
  push_cast at gaps ⊢
  linarith [nonnegative.environmentPadding, nonnegative.datacenterPadding]

theorem height_environment_nonneg (e : Environment) : 0 ≤ (s.environmentSize e).height := by
  rw [height_environment]
  linarith [nonnegative.headerHeight, nonnegative.environmentPadding,
    stackHeight_nonneg nonnegative e.datacenters]

theorem along_le_endAlong (corner : Point Rat) (e : Environment) :
    along s.direction corner ≤ endAlong s.direction (s.placeEnvironment corner e).bounds := by
  cases s.direction with
  | leftToRight => exact le_add_of_nonneg_right (width_environment_nonneg nonnegative e)
  | topToBottom => exact le_add_of_nonneg_right (height_environment_nonneg nonnegative e)

theorem endAlong_le_along_advance (corner : Point Rat) (e : Environment) :
    endAlong s.direction (s.placeEnvironment corner e).bounds ≤
      along s.direction (s.advance corner (s.placeEnvironment corner e).bounds.size) := by
  have gap := nonnegative.environmentGap
  have width : (s.placeEnvironment corner e).bounds.width = (s.environmentSize e).width :=
    width_ofTopLeft _ _
  have height : (s.placeEnvironment corner e).bounds.height = (s.environmentSize e).height :=
    height_ofTopLeft _ _
  unfold Layout.Settings.advance
  cases s.direction with
  | leftToRight =>
      change corner.x + (s.environmentSize e).width ≤ corner.x + Bounds.width _ + _
      rw [width]
      exact le_add_of_nonneg_right gap
  | topToBottom =>
      change corner.y + (s.environmentSize e).height ≤ corner.y + Bounds.height _ + _
      rw [height]
      exact le_add_of_nonneg_right gap

theorem exists_environment {corner : Point Rat} {es : List Environment} {b : EnvironmentBox Rat}
    (member : b ∈ s.placeEnvironments corner es) :
    ∃ e corner', b = s.placeEnvironment corner' e ∧
      along s.direction corner ≤ along s.direction corner' := by
  induction es generalizing corner with
  | nil => cases member
  | cons e es ih =>
      rcases List.mem_cons.mp member with rfl | later
      · exact ⟨e, corner, rfl, le_rfl⟩
      · obtain ⟨e', corner', place, further⟩ := ih later
        have passed := (along_le_endAlong nonnegative corner e).trans
          (endAlong_le_along_advance nonnegative corner e)
        exact ⟨e', corner', place, passed.trans further⟩

theorem separated_environments (corner : Point Rat) (es : List Environment) :
    ((s.placeEnvironments corner es).map (·.bounds)).Pairwise Separated := by
  induction es generalizing corner with
  | nil => exact .nil
  | cons e es ih =>
      refine List.pairwise_cons.mpr ⟨fun bounds later => ?_, ih _⟩
      obtain ⟨b, member, rfl⟩ := List.mem_map.mp later
      obtain ⟨e', corner', rfl, further⟩ := exists_environment nonnegative member
      exact separated_of_endAlong_le
        ((endAlong_le_along_advance nonnegative corner e).trans further)

/-! ## Whole layouts -/

theorem exists_datacenter {t : Topology} {e : EnvironmentBox Rat} {b : DatacenterBox Rat}
    (outer : e ∈ (s.layout t).environments) (member : b ∈ e.datacenters) :
    ∃ e' d, d ∈ e'.datacenters ∧ b.areas = s.placeAreas d ∧ ∃ corner, b.bounds = .ofTopLeft corner
      ⟨(s.environmentSize e').width - 2 * s.environmentPadding, s.datacenterHeight d⟩ := by
  obtain ⟨e', corner, rfl, -⟩ := exists_environment nonnegative outer
  obtain ⟨d, inside, areas, top, -, -, place⟩ := exists_level nonnegative member
  exact ⟨e', d, inside, areas, _, place⟩

theorem isTidy_layout (narrow : s.componentWidth ≤ s.areaWidth) (t : Topology) :
    IsTidy (s.layout t) where
  environments := separated_environments nonnegative _ _
  datacenters e member := by
    obtain ⟨e', corner, rfl, -⟩ := exists_environment nonnegative member
    refine ⟨fun bounds inner => ?_, separated_datacenters nonnegative _ _ _⟩
    obtain ⟨b, among, rfl⟩ := List.mem_map.mp inner
    have padding := nonnegative.environmentPadding
    exact (margins_datacenter nonnegative among).fitsIn padding
      (add_nonneg nonnegative.headerHeight padding) padding
  areas e member d among := by
    obtain ⟨e', d', inside, areas, corner, place⟩ := exists_datacenter nonnegative member among
    rw [areas, place]
    refine ⟨fun bounds inner => ?_, separated_areas nonnegative d'⟩
    obtain ⟨b, column, rfl⟩ := List.mem_map.mp inner
    have padding := nonnegative.datacenterPadding
    exact (margins_area nonnegative inside column _).fitsIn padding
      (add_nonneg nonnegative.headerHeight padding) padding
  components e member d among a inner := by
    obtain ⟨e', d', -, areas, -⟩ := exists_datacenter nonnegative member among
    rw [areas] at inner
    obtain ⟨column, -, a', -, components, place⟩ := exists_column inner
    rw [components, place]
    refine ⟨fun bounds inside => ?_, separated_components nonnegative a'⟩
    obtain ⟨b, row, rfl⟩ := List.mem_map.mp inside
    have padding := nonnegative.areaPadding
    exact (margins_component nonnegative narrow row _).fitsIn le_rfl
      (add_nonneg nonnegative.headerHeight padding) padding

end Environments

/-- Two boxes of a computed layout are one inside the other by the tree or lie beside each other.
Boxes of components, which are on the fourth level, always lie beside each other. -/
theorem boxes_keep_apart (nonnegative : ∀ length ∈ s.lengths, 0 ≤ length.2)
    (narrow : s.componentWidth ≤ s.areaWidth) (t : Topology) :
    (∀ p b q c, BoxAt (s.layout t) p b → BoxAt (s.layout t) q c → p ≠ q →
      p <+: q ∨ q <+: p ∨ Separated b c) ∧
    (∀ p b q c, BoxAt (s.layout t) p b → BoxAt (s.layout t) q c → p ≠ q →
      p.length = 4 → q.length = 4 → Separated b c) := by
  have tidy := isTidy_layout (isNonnegative_iff.mpr nonnegative) narrow t
  refine ⟨fun p b q c first second _ => related_or_separated tidy first second, ?_⟩
  intro p b q c first second other deep deep'
  rcases related_or_separated tidy first second with outer | inner | apart
  · exact absurd (outer.eq_of_length (deep.trans deep'.symm)) other
  · exact absurd (inner.eq_of_length (deep'.trans deep.symm)).symm other
  · exact apart

/-- Two environments, the first with two datacenters, of which the second has more areas. -/
def uneven : Topology where
  name := "net"
  environments :=
    [⟨"a", [⟨"1", [⟨"z", .unknown, [⟨"x"⟩, ⟨"y"⟩]⟩]⟩,
      ⟨"2", [⟨"z", .unknown, [⟨"v"⟩]⟩, ⟨"w", .unknown, [⟨"u"⟩, ⟨"t"⟩, ⟨"s"⟩]⟩]⟩]⟩,
    ⟨"b", [⟨"1", [⟨"z", .unknown, [⟨"r"⟩]⟩]⟩]⟩]
  components := []
  connections := []

theorem boxes_of_uneven :
    (∀ length ∈ (Layout.Settings.defaults : Layout.Settings Rat).lengths, 0 ≤ length.2) ∧
      (Layout.Settings.defaults : Layout.Settings Rat).componentWidth ≤
        (Layout.Settings.defaults : Layout.Settings Rat).areaWidth ∧
      ∃ b c, BoxAt (Layout.Settings.defaults.layout uneven) [0, 1, 1, 2] b ∧
        BoxAt (Layout.Settings.defaults.layout uneven) [1, 0, 0, 0] c ∧
        b = ⟨380, 730, 520, 770⟩ ∧ c = ⟨730, 230, 870, 270⟩ ∧ Separated b c := by
  have nonnegative : ∀ length ∈ (Layout.Settings.defaults : Layout.Settings Rat).lengths,
      0 ≤ length.2 := by decide +kernel
  have narrow : (Layout.Settings.defaults : Layout.Settings Rat).componentWidth ≤
      (Layout.Settings.defaults : Layout.Settings Rat).areaWidth := by decide +kernel
  have first : BoxAt (Layout.Settings.defaults.layout uneven : Layout Rat) [0, 1, 1, 2] _ :=
    .component rfl rfl rfl rfl
  have second : BoxAt (Layout.Settings.defaults.layout uneven : Layout Rat) [1, 0, 0, 0] _ :=
    .component rfl rfl rfl rfl
  have apart := (boxes_keep_apart nonnegative narrow uneven).2 _ _ _ _ first second (by decide)
    rfl rfl
  exact ⟨nonnegative, narrow, _, _, first, second, by decide +kernel, by decide +kernel, apart⟩

end NetDiagram.Proofs.Placing
