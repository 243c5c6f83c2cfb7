import Mathlib.Algebra.Order.Ring.Rat
import Mathlib.Tactic.Linarith
import NetDiagram.Layout.Box

/-!
# Boxes in boxes

The boxes of a layout form a tree. If in every group the boxes lie inside the group and beside each
other, then any two boxes of the whole layout that are not one inside the other by the tree lie
beside each other in the diagram. Lengths are read over the rational numbers.

* `BoxAt`: the boxes of a layout with their places in the tree and in the diagram.
* `IsTidy`: what is asked of every single group.
* `related_or_separated`: what follows for any two boxes.
-/

namespace NetDiagram.Proofs.Placing
open Layout

/-! ## Boxes by their places -/

/-- The way to a box: its place among its siblings on every level, outermost first. -/
abbrev Place := List Nat

/-- A layout has a box at a place in its tree, with the given absolute bounds. -/
inductive BoxAt {α : Type} [Coordinate α] (l : Layout α) : Place → Bounds α → Prop
  | environment {i : Nat} {e : EnvironmentBox α} (first : l.environments[i]? = some e) :
      BoxAt l [i] (e.absolute [])
  | datacenter {i j : Nat} {e : EnvironmentBox α} {d : DatacenterBox α}
      (first : l.environments[i]? = some e) (second : e.datacenters[j]? = some d) :
      BoxAt l [i, j] (e.absolute [d.bounds])
  | area {i j k : Nat} {e : EnvironmentBox α} {d : DatacenterBox α} {a : AreaBox α}
      (first : l.environments[i]? = some e) (second : e.datacenters[j]? = some d)
      (third : d.areas[k]? = some a) :
      BoxAt l [i, j, k] (e.absolute [d.bounds, a.bounds])
  | component {i j k m : Nat} {e : EnvironmentBox α} {d : DatacenterBox α} {a : AreaBox α}
      {c : ComponentBox α}
      (first : l.environments[i]? = some e) (second : e.datacenters[j]? = some d)
      (third : d.areas[k]? = some a) (fourth : a.components[m]? = some c) :
      BoxAt l [i, j, k, m] (e.absolute [d.bounds, a.bounds, c.bounds])

theorem BoxAt.length_le {α : Type} [Coordinate α] {l : Layout α} {p : Place} {b : Bounds α}
    (box : BoxAt l p b) : p.length ≤ 4 := by
  cases box <;> simp

/-- Two ways that part lead to different places below a common one. -/
theorem exists_fork {p q : Place} (first : ¬p <+: q) (second : ¬q <+: p) :
    ∃ (r : Place) (i j : Nat) (p' q' : Place), i ≠ j ∧ p = r ++ [i] ++ p' ∧ q = r ++ [j] ++ q' := by
  induction p generalizing q with
  | nil => exact absurd (List.nil_prefix) first
  | cons i p ih =>
      cases q with
      | nil => exact absurd (List.nil_prefix) second
      | cons j q =>
          by_cases same : i = j
          · subst same
            obtain ⟨r, i', j', p', q', other, rfl, rfl⟩ :=
              ih (q := q) (by simpa using first) (by simpa using second)
            exact ⟨i :: r, i', j', p', q', other, rfl, rfl⟩
          · exact ⟨[], i, j, p, q, same, rfl, rfl⟩

/-! ## Rectangles -/

variable {b c b' c' : Bounds Rat}

/-- Two rectangles lie beside each other along x or along y. They may touch. -/
def Separated (b c : Bounds Rat) : Prop :=
  b.maxX ≤ c.minX ∨ c.maxX ≤ b.minX ∨ b.maxY ≤ c.minY ∨ c.maxY ≤ b.minY

structure IsWithin (inner outer : Bounds Rat) : Prop where
  left : outer.minX ≤ inner.minX
  top : outer.minY ≤ inner.minY
  right : inner.maxX ≤ outer.maxX
  bottom : inner.maxY ≤ outer.maxY

/-- A rectangle that counts from the corner of another one lies inside it. -/
structure FitsIn (inner outer : Bounds Rat) : Prop where
  left : 0 ≤ inner.minX
  top : 0 ≤ inner.minY
  right : inner.maxX ≤ outer.width
  bottom : inner.maxY ≤ outer.height

theorem Separated.symm (apart : Separated b c) : Separated c b := by
  rcases apart with right | left | below | above
  · exact .inr (.inl right)
  · exact .inl left
  · exact .inr (.inr (.inr below))
  · exact .inr (.inr (.inl above))

theorem Separated.mono (apart : Separated b c) (first : IsWithin b' b) (second : IsWithin c' c) :
    Separated b' c' := by
  rcases apart with right | left | below | above
  · exact .inl (first.right.trans (right.trans second.left))
  · exact .inr (.inl (second.right.trans (left.trans first.left)))
  · exact .inr (.inr (.inl (first.bottom.trans (below.trans second.top))))
  · exact .inr (.inr (.inr (second.bottom.trans (above.trans first.top))))

theorem Separated.within (apart : Separated b c) (outer : Bounds Rat) :
    Separated (within outer b) (within outer c) := by
  rcases apart with right | left | below | above
  · exact .inl (add_le_add_left right _)
  · exact .inr (.inl (add_le_add_left left _))
  · exact .inr (.inr (.inl (add_le_add_left below _)))
  · exact .inr (.inr (.inr (add_le_add_left above _)))

theorem IsWithin.refl (b : Bounds Rat) : IsWithin b b := ⟨le_rfl, le_rfl, le_rfl, le_rfl⟩

theorem IsWithin.trans {d : Bounds Rat} (inner : IsWithin b c) (outer : IsWithin c d) :
    IsWithin b d where
  left := outer.left.trans inner.left
  top := outer.top.trans inner.top
  right := inner.right.trans outer.right
  bottom := inner.bottom.trans outer.bottom

theorem FitsIn.isWithin (fits : FitsIn b c) : IsWithin (within c b) c where
  left := le_add_of_nonneg_left fits.left
  top := le_add_of_nonneg_left fits.top
  right := by
    have right := fits.right
    change b.maxX + c.minX ≤ c.maxX
    change b.maxX ≤ c.maxX - c.minX at right
    linarith
  bottom := by
    have bottom := fits.bottom
    change b.maxY + c.minY ≤ c.maxY
    change b.maxY ≤ c.maxY - c.minY at bottom
    linarith

theorem FitsIn.within (fits : FitsIn b c) (outer : Bounds Rat) : FitsIn b (within outer c) where
  left := fits.left
  top := fits.top
  right := by
    have right := fits.right
    change b.maxX ≤ (c.maxX + outer.minX) - (c.minX + outer.minX)
    change b.maxX ≤ c.maxX - c.minX at right
    linarith
  bottom := by
    have bottom := fits.bottom
    change b.maxY ≤ (c.maxY + outer.minY) - (c.minY + outer.minY)
    change b.maxY ≤ c.maxY - c.minY at bottom
    linarith

/-! ## Tidy layouts -/

/-- The boxes in a group fit in it, beside each other. -/
structure IsTidyGroup (outer : Bounds Rat) (inner : List (Bounds Rat)) : Prop where
  fit : ∀ b ∈ inner, FitsIn b outer
  apart : inner.Pairwise Separated

/-- The environments of a layout lie beside each other, and every group in them is tidy. -/
structure IsTidy (l : Layout Rat) : Prop where
  environments : (l.environments.map (·.bounds)).Pairwise Separated
  datacenters : ∀ e ∈ l.environments, IsTidyGroup e.bounds (e.datacenters.map (·.bounds))
  areas : ∀ e ∈ l.environments, ∀ d ∈ e.datacenters,
    IsTidyGroup d.bounds (d.areas.map (·.bounds))
  components : ∀ e ∈ l.environments, ∀ d ∈ e.datacenters, ∀ a ∈ d.areas,
    IsTidyGroup a.bounds (a.components.map (·.bounds))

theorem separated_of_ne {β : Type} {xs : List β} {bounds : β → Bounds Rat} {x y : β} {i j : Nat}
    (apart : (xs.map bounds).Pairwise Separated) (first : xs[i]? = some x)
    (second : xs[j]? = some y) (other : i ≠ j) : Separated (bounds x) (bounds y) := by
  obtain ⟨hi, rfl⟩ := List.getElem?_eq_some_iff.mp first
  obtain ⟨hj, rfl⟩ := List.getElem?_eq_some_iff.mp second
  rw [List.pairwise_map, List.pairwise_iff_getElem] at apart
  rcases Nat.lt_or_gt_of_ne other with before | after
  · exact apart i j hi hj before
  · exact (apart j i hj hi after).symm

section Tidy

variable {l : Layout Rat} (tidy : IsTidy l)
include tidy

theorem siblings_separated {p : Place} {i j : Nat} (first : BoxAt l (p ++ [i]) b)
    (second : BoxAt l (p ++ [j]) c) (other : i ≠ j) : Separated b c := by
  rcases p with _ | ⟨_, _ | ⟨_, _ | ⟨_, _ | _⟩⟩⟩
  · cases first with | environment hi => cases second with | environment hj =>
    exact separated_of_ne tidy.environments hi hj other
  · cases first with | datacenter he hi => cases second with | datacenter he' hj =>
    cases he.symm.trans he'
    have group := tidy.datacenters _ (List.mem_of_getElem? he)
    exact (separated_of_ne group.apart hi hj other).within _
  · cases first with | area he hd hi => cases second with | area he' hd' hj =>
    cases he.symm.trans he'
    cases hd.symm.trans hd'
    have group := tidy.areas _ (List.mem_of_getElem? he) _ (List.mem_of_getElem? hd)
    exact (separated_of_ne group.apart hi hj other).within _
  · cases first with | component he hd ha hi => cases second with | component he' hd' ha' hj =>
    cases he.symm.trans he'
    cases hd.symm.trans hd'
    cases ha.symm.trans ha'
    have group := tidy.components _ (List.mem_of_getElem? he) _ (List.mem_of_getElem? hd) _
      (List.mem_of_getElem? ha)
    exact (separated_of_ne group.apart hi hj other).within _
  · exact absurd first.length_le (by simp)

theorem exists_outer {p : Place} {i : Nat} (inner : BoxAt l (p ++ [i]) b) (grouped : p ≠ []) :
    ∃ c, BoxAt l p c ∧ IsWithin b c := by
  rcases p with _ | ⟨_, _ | ⟨_, _ | ⟨_, _ | _⟩⟩⟩
  · exact absurd rfl grouped
  · cases inner with | datacenter he hd =>
    have group := tidy.datacenters _ (List.mem_of_getElem? he)
    have fits := group.fit _ (List.mem_map_of_mem (List.mem_of_getElem? hd))
    exact ⟨_, .environment he, fits.isWithin⟩
  · cases inner with | area he hd ha =>
    have group := tidy.areas _ (List.mem_of_getElem? he) _ (List.mem_of_getElem? hd)
    have fits := group.fit _ (List.mem_map_of_mem (List.mem_of_getElem? ha))
    exact ⟨_, .datacenter he hd, (fits.within _).isWithin⟩
  · cases inner with | component he hd ha hc =>
    have group := tidy.components _ (List.mem_of_getElem? he) _ (List.mem_of_getElem? hd) _
      (List.mem_of_getElem? ha)
    have fits := group.fit _ (List.mem_map_of_mem (List.mem_of_getElem? hc))
    exact ⟨_, .area he hd ha, (fits.within _).isWithin⟩
  · exact absurd inner.length_le (by simp)

theorem exists_ancestor {p q : Place} (inner : BoxAt l (p ++ q) b) (grouped : p ≠ []) :
    ∃ c, BoxAt l p c ∧ IsWithin b c := by
  induction q generalizing p with
  | nil => exact ⟨b, by simpa using inner, .refl b⟩
  | cons i q ih =>
      rw [List.append_cons] at inner
      obtain ⟨c, middle, inside⟩ := ih inner (by simp)
      obtain ⟨d, outer, inside'⟩ := exists_outer tidy middle grouped
      exact ⟨d, outer, inside.trans inside'⟩

/-- Where the ways to two boxes part, they enter two siblings, which keep apart what is in them. -/
theorem related_or_separated {p q : Place} (first : BoxAt l p b) (second : BoxAt l q c) :
    p <+: q ∨ q <+: p ∨ Separated b c := by
  by_cases outer : p <+: q
  · exact .inl outer
  by_cases inner : q <+: p
  · exact .inr (.inl inner)
  obtain ⟨r, i, j, p', q', other, rfl, rfl⟩ := exists_fork outer inner
  obtain ⟨b', at_b', inside_b⟩ := exists_ancestor tidy first (by simp)
  obtain ⟨c', at_c', inside_c⟩ := exists_ancestor tidy second (by simp)
  exact .inr (.inr ((siblings_separated tidy at_b' at_c' other).mono inside_b inside_c))

end Tidy

end NetDiagram.Proofs.Placing
