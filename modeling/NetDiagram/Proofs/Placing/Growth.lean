import NetDiagram.Proofs.Grouping.Growth
import NetDiagram.Proofs.Placing.Separation

/-!
# Boxes grow with their content

A tree that is extended at the ends of its lists needs at least as much room, on every level and
wherever it is extended. The sizes are sums and maxima over what is inside, and the places are sums
of sizes that come before, so all of them follow.

* `height_area_mono`, `datacenterHeight_mono`, `stackHeight_mono`, `columns_mono`: sizes.
* `areas_grow`, `datacenters_grow`, `environments_grow`: what is placed in a larger tree.
-/

namespace NetDiagram.Proofs.Placing
open Layout
open Grouping (Begins begins_nil)

/-! ## Trees that are extended -/

structure IsExtendedArea (old new : Area) : Prop where
  name : new.name = old.name
  components : old.components <+: new.components

structure IsExtendedDatacenter (old new : Datacenter) : Prop where
  name : new.name = old.name
  areas : Begins IsExtendedArea old.areas new.areas

structure IsExtendedEnvironment (old new : Environment) : Prop where
  name : new.name = old.name
  datacenters : Begins IsExtendedDatacenter old.datacenters new.datacenters

/-- The tree of a topology begins with that of an older one, on every level. Nothing is asked of
kinds, of components outside the tree or of connections. -/
def IsExtended (old new : Topology) : Prop :=
  Begins IsExtendedEnvironment old.environments new.environments

/-! ## Boxes that grow -/

structure IsNoSmaller (old new : Bounds Rat) : Prop where
  width : old.width ≤ new.width
  height : old.height ≤ new.height

/-- The area stays in its place in the datacenter, and the boxes of its components stay as they
are. -/
structure IsGrownAreaBox (old new : AreaBox Rat) : Prop where
  name : new.name = old.name
  corner : new.bounds.corner = old.bounds.corner
  size : IsNoSmaller old.bounds new.bounds
  components : old.components <+: new.components

/-- The datacenter can only be moved down in its environment. -/
structure IsGrownDatacenterBox (old new : DatacenterBox Rat) : Prop where
  name : new.name = old.name
  left : new.bounds.minX = old.bounds.minX
  top : old.bounds.minY ≤ new.bounds.minY
  size : IsNoSmaller old.bounds new.bounds
  areas : Begins IsGrownAreaBox old.areas new.areas

/-- The environment can only be moved aside and down. -/
structure IsGrownEnvironmentBox (old new : EnvironmentBox Rat) : Prop where
  name : new.name = old.name
  left : old.bounds.minX ≤ new.bounds.minX
  top : old.bounds.minY ≤ new.bounds.minY
  size : IsNoSmaller old.bounds new.bounds
  datacenters : Begins IsGrownDatacenterBox old.datacenters new.datacenters

theorem isNoSmaller_ofTopLeft {corner corner' : Point Rat} {size size' : Size Rat}
    (width : size.width ≤ size'.width) (height : size.height ≤ size'.height) :
    IsNoSmaller (.ofTopLeft corner size) (.ofTopLeft corner' size') where
  width := by rwa [width_ofTopLeft, width_ofTopLeft]
  height := by rwa [height_ofTopLeft, height_ofTopLeft]

/-! ## Sizes -/

theorem foldl_max_mono {β : Type} [LinearOrder β] {xs ys : List β} (begins : Begins (· ≤ ·) xs ys)
    {least least' : β} (le : least ≤ least') : xs.foldl max least ≤ ys.foldl max least' := by
  induction begins using Begins.induction generalizing least least' with
  | nil ys => exact le.trans (le_foldl_max ys least').1
  | cons x y xs ys first _ ih => exact ih (max_le_max le first)

theorem columns_mono {e e' : Environment}
    (extended : Begins IsExtendedDatacenter e.datacenters e'.datacenters) :
    Layout.Settings.columns e ≤ Layout.Settings.columns e' :=
  foldl_max_mono (extended.map fun _ _ longer => longer.areas.length_le) le_rfl

variable {s : Layout.Settings Rat}

section Growth

variable (nonnegative : IsNonnegative s)
include nonnegative

theorem height_area_mono {n n' : Nat} (le : n ≤ n') :
    (s.areaSize n).height ≤ (s.areaSize n').height := by
  -- Without components an area is as high as with one.
  have rows : ((max n 1 : Nat) : Rat) ≤ (max n' 1 : Nat) :=
    Nat.cast_le.mpr (max_le_max le le_rfl)
  have gaps : ((n - 1 : Nat) : Rat) ≤ (n' - 1 : Nat) := Nat.cast_le.mpr (Nat.sub_le_sub_right le 1)
  have := mul_le_mul_of_nonneg_right rows nonnegative.componentHeight
  have := mul_le_mul_of_nonneg_right gaps nonnegative.componentSpacing
  simp only [Layout.Settings.areaSize, ofCount_rat]
  linarith

theorem datacenterHeight_mono {d d' : Datacenter}
    (extended : Begins IsExtendedArea d.areas d'.areas) :
    s.datacenterHeight d ≤ s.datacenterHeight d' := by
  have heights : Begins (· ≤ ·) (d.areas.map fun a => (s.areaSize a.components.length).height)
      (d'.areas.map fun a => (s.areaSize a.components.length).height) :=
    extended.map fun _ _ longer => height_area_mono nonnegative longer.components.length_le
  have highest := foldl_max_mono heights (le_refl ((0 : Nat) : Rat))
  simp only [Layout.Settings.datacenterHeight, greater_rat, ofCount_rat]
  linarith

theorem stackHeight_mono {ds ds' : List Datacenter}
    (extended : Begins IsExtendedDatacenter ds ds') :
    stackHeight s ds ≤ stackHeight s ds' := by
  induction extended using Begins.induction with
  | nil ds' =>
      have empty : stackHeight s [] = 0 := by simp [stackHeight]
      rw [empty]
      exact stackHeight_nonneg nonnegative ds'
  | cons d d' ds ds' first later ih =>
      have height := datacenterHeight_mono nonnegative first.areas
      cases ds with
      | nil =>
          have alone : stackHeight s [d] = s.datacenterHeight d := by simp [stackHeight]
          rw [alone]
          exact height.trans (height_le_stackHeight nonnegative d' ds')
      | cons e es =>
          have more : ds' ≠ [] := List.length_pos_iff.mp (Nat.lt_of_lt_of_le
            (Nat.succ_pos es.length) later.length_le)
          rw [stackHeight_cons d (List.cons_ne_nil e es), stackHeight_cons d' more]
          linarith

theorem width_environment_mono {e e' : Environment}
    (extended : Begins IsExtendedDatacenter e.datacenters e'.datacenters) :
    (s.environmentSize e).width ≤ (s.environmentSize e').width := by
  have columns := columns_mono extended
  have areas := mul_le_mul_of_nonneg_right (Nat.cast_le (α := Rat).mpr columns)
    nonnegative.areaWidth
  have gaps := mul_le_mul_of_nonneg_right (Nat.cast_le (α := Rat).mpr
    (Nat.sub_le_sub_right columns 1)) nonnegative.areaSpacing
  simp only [Layout.Settings.environmentSize, ofCount_rat]
  linarith

theorem height_environment_mono {e e' : Environment}
    (extended : Begins IsExtendedDatacenter e.datacenters e'.datacenters) :
    (s.environmentSize e).height ≤ (s.environmentSize e').height := by
  rw [height_environment, height_environment]
  linarith [stackHeight_mono nonnegative extended]

/-! ## Places -/

omit nonnegative in
theorem placeComponents_prefix {a a' : Area} (longer : a.components <+: a'.components) :
    s.placeComponents a <+: s.placeComponents a' := by
  obtain ⟨more, whole⟩ := longer
  rw [Layout.Settings.placeComponents, Layout.Settings.placeComponents, ← whole,
    List.zipIdx_append, List.map_append]
  exact List.prefix_append _ _

theorem areas_grow {d d' : Datacenter} (extended : Begins IsExtendedArea d.areas d'.areas) :
    Begins IsGrownAreaBox (s.placeAreas d) (s.placeAreas d') := by
  refine extended.map_zipIdx (fun a a' column longer => ?_) 0
  exact
    { name := longer.name
      corner := rfl
      size := isNoSmaller_ofTopLeft le_rfl
        (height_area_mono nonnegative longer.components.length_le)
      components := placeComponents_prefix longer.components }

theorem datacenters_grow {ds ds' : List Datacenter}
    (extended : Begins IsExtendedDatacenter ds ds') {width width' y y' : Rat}
    (wider : width ≤ width') (lower : y ≤ y') :
    Begins IsGrownDatacenterBox (s.placeDatacenters width y ds)
      (s.placeDatacenters width' y' ds') := by
  induction extended using Begins.induction generalizing y y' with
  | nil ds' => exact begins_nil _
  | cons d d' ds ds' first _ ih =>
      have height := datacenterHeight_mono nonnegative first.areas
      refine Begins.cons ?_ (ih (add_le_add lower (add_le_add_left height _)))
      exact
        { name := first.name
          left := rfl
          top := lower
          size := isNoSmaller_ofTopLeft wider height
          areas := areas_grow nonnegative first.areas }

theorem environment_grows {e e' : Environment} (extended : IsExtendedEnvironment e e')
    {corner corner' : Point Rat} (left : corner.x ≤ corner'.x) (top : corner.y ≤ corner'.y) :
    IsGrownEnvironmentBox (s.placeEnvironment corner e) (s.placeEnvironment corner' e') where
  name := extended.name
  left := left
  top := top
  size := isNoSmaller_ofTopLeft (width_environment_mono nonnegative extended.datacenters)
    (height_environment_mono nonnegative extended.datacenters)
  datacenters := datacenters_grow nonnegative extended.datacenters
    (sub_le_sub_right (width_environment_mono nonnegative extended.datacenters) _) le_rfl

omit nonnegative in
theorem advance_mono {corner corner' : Point Rat} {b b' : Bounds Rat}
    (left : corner.x ≤ corner'.x) (top : corner.y ≤ corner'.y) (size : IsNoSmaller b b') :
    (s.advance corner b.size).x ≤ (s.advance corner' b'.size).x ∧
      (s.advance corner b.size).y ≤ (s.advance corner' b'.size).y := by
  unfold Layout.Settings.advance
  cases s.direction with
  | leftToRight => exact ⟨add_le_add_left (add_le_add left size.width) _, top⟩
  | topToBottom => exact ⟨left, add_le_add_left (add_le_add top size.height) _⟩

theorem environments_grow {es es' : List Environment}
    (extended : Begins IsExtendedEnvironment es es') {corner corner' : Point Rat}
    (left : corner.x ≤ corner'.x) (top : corner.y ≤ corner'.y) :
    Begins IsGrownEnvironmentBox (s.placeEnvironments corner es)
      (s.placeEnvironments corner' es') := by
  induction extended using Begins.induction generalizing corner corner' with
  | nil es' => exact begins_nil _
  | cons e e' es es' first _ ih =>
      have box := environment_grows nonnegative first left top
      obtain ⟨left, top⟩ := advance_mono (s := s) left top box.size
      exact (ih left top).cons box

end Growth

/-! ## The statement -/

/-- If the tree of a topology is extended, the boxes that were there keep their sizes or grow. Only
environments and datacenters are moved, and never back. -/
theorem boxes_grow_with_content (nonnegative : ∀ length ∈ s.lengths, 0 ≤ length.2)
    {t t' : Topology} (extended : IsExtended t t') :
    Begins IsGrownEnvironmentBox (s.layout t).environments (s.layout t').environments :=
  environments_grow (isNonnegative_iff.mpr nonnegative) extended le_rfl le_rfl

/-- Two environments, the first with an area that holds nothing, the second without content. -/
def sparse : Topology where
  name := "net"
  environments :=
    [⟨"a", [⟨"1", [⟨"z", .unknown, [⟨"x"⟩]⟩, ⟨"w", .unknown, []⟩]⟩,
      ⟨"2", [⟨"z", .unknown, [⟨"v"⟩]⟩]⟩]⟩,
    ⟨"b", []⟩]
  components := []
  connections := []

/-- The same with something added in every group but the second datacenter. -/
def fuller : Topology where
  name := "net"
  environments :=
    [⟨"a", [⟨"1", [⟨"z", .unknown, [⟨"x"⟩, ⟨"y"⟩]⟩, ⟨"w", .unknown, [⟨"u"⟩]⟩,
        ⟨"t", .unknown, []⟩]⟩,
      ⟨"2", [⟨"z", .unknown, [⟨"v"⟩]⟩]⟩]⟩,
    ⟨"b", [⟨"1", []⟩]⟩, ⟨"c", []⟩]
  components := []
  connections := []

theorem isExtended_fuller : IsExtended sparse fuller := by
  refine .cons ⟨rfl, .cons ⟨rfl, .cons ⟨rfl, [⟨"y"⟩], rfl⟩ (.cons ⟨rfl, [⟨"u"⟩], rfl⟩ ?_)⟩
    (.cons ⟨rfl, .cons ⟨rfl, [], rfl⟩ ?_⟩ ?_)⟩ (.cons ⟨rfl, ?_⟩ ?_)
  all_goals exact begins_nil _

def outerBounds (l : Layout Rat) : List (Bounds Rat × List (Bounds Rat)) :=
  l.environments.map fun e => (e.bounds, e.datacenters.map (·.bounds))

/-- The boxes of the areas and of the components in them. -/
def innerBounds (l : Layout Rat) : List (Bounds Rat × List (Bounds Rat)) :=
  l.environments.flatMap fun e => e.datacenters.flatMap fun d =>
    d.areas.map fun a => (a.bounds, a.components.map (·.bounds))

theorem boxes_of_fuller :
    (∀ length ∈ (Layout.Settings.defaults : Layout.Settings Rat).lengths, 0 ≤ length.2) ∧
      IsExtended sparse fuller ∧
      outerBounds (Layout.Settings.defaults.layout sparse) =
        [(⟨50, 50, 600, 560⟩, [⟨20, 60, 530, 260⟩, ⟨20, 290, 530, 490⟩]),
          (⟨650, 50, 730, 130⟩, [])] ∧
      outerBounds (Layout.Settings.defaults.layout fuller) =
        [(⟨50, 50, 850, 650⟩, [⟨20, 60, 780, 350⟩, ⟨20, 380, 780, 580⟩]),
          (⟨900, 50, 980, 210⟩, [⟨20, 60, 60, 140⟩]), (⟨1030, 50, 1110, 130⟩, [])] ∧
      innerBounds (Layout.Settings.defaults.layout sparse) =
        [(⟨20, 60, 240, 180⟩, [⟨40, 60, 180, 100⟩]), (⟨270, 60, 490, 180⟩, []),
          (⟨20, 60, 240, 180⟩, [⟨40, 60, 180, 100⟩])] ∧
      innerBounds (Layout.Settings.defaults.layout fuller) =
        [(⟨20, 60, 240, 270⟩, [⟨40, 60, 180, 100⟩, ⟨40, 150, 180, 190⟩]),
          (⟨270, 60, 490, 180⟩, [⟨40, 60, 180, 100⟩]), (⟨520, 60, 740, 180⟩, []),
          (⟨20, 60, 240, 180⟩, [⟨40, 60, 180, 100⟩])] ∧
      Begins IsGrownEnvironmentBox
        (Layout.Settings.defaults.layout sparse : Layout Rat).environments
        (Layout.Settings.defaults.layout fuller : Layout Rat).environments := by
  have nonnegative : ∀ length ∈ (Layout.Settings.defaults : Layout.Settings Rat).lengths,
      0 ≤ length.2 := by decide +kernel
  exact ⟨nonnegative, isExtended_fuller, by decide +kernel, by decide +kernel, by decide +kernel,
    by decide +kernel, boxes_grow_with_content nonnegative isExtended_fuller⟩

end NetDiagram.Proofs.Placing
