import NetDiagram.Document.SceneJson
import NetDiagram.Proofs.Drawing.Presentation

/-!
# What an Excalidraw scene shows

The boxes of a scene are numbered from zero, so no two of their rectangles share a name, and those
of components show the components of the layout in its order. An arrow is drawn where both ends
have a box.

* `map_connection_arrows`: which connections have an arrow.
* `isSoleBox_of_mem_arrows`: where an arrow starts and ends.
* `stats_scene`: what is counted.
-/

namespace NetDiagram.Proofs.Drawing
open Grouping Scene

variable {α : Type} {t : Topology} {l : Layout α}

/-! ## Boxes -/

def placedIdentities (ps : List (Placement α)) : List Identity :=
  (ps.filterMap (·.frame?)).filterMap (·.component?)

theorem placedIdentities_append (ps qs : List (Placement α)) :
    placedIdentities (ps ++ qs) = placedIdentities ps ++ placedIdentities qs := by
  simp [placedIdentities]

theorem placedIdentities_flatMap {β : Type} {place : β → List (Placement α)}
    {boxes : β → List (Layout.ComponentBox α)}
    (each : ∀ x, placedIdentities (place x) = (known t (boxes x)).map (·.identity))
    (xs : List β) :
    placedIdentities (xs.flatMap place) = (known t (xs.flatMap boxes)).map (·.identity) := by
  induction xs with
  | nil => rfl
  | cons x xs ih =>
      rw [List.flatMap_cons, List.flatMap_cons, placedIdentities_append, known_append,
        List.map_append, each, ih]

section Placements

variable [Coordinate α]

theorem placedIdentities_components (outer : Bounds α) (bs : List (Layout.ComponentBox α)) :
    placedIdentities (bs.map (componentPlacement t outer)) = (known t bs).map (·.identity) := by
  induction bs with
  | nil => rfl
  | cons b bs ih =>
      rw [List.map_cons, componentPlacement]
      cases found : t.component? b.id with
      | none =>
          rw [known_cons_of_none found]
          exact ih
      | some c =>
          rw [known_cons_of_some found, List.map_cons]
          exact congrArg (c.identity :: ·) ih

theorem placedIdentities_area (outer : Bounds α) (a : Layout.AreaBox α) :
    placedIdentities (areaPlacements t outer a) = (known t a.components).map (·.identity) :=
  placedIdentities_components _ _

theorem placedIdentities_datacenter (outer : Bounds α) (d : Layout.DatacenterBox α) :
    placedIdentities (datacenterPlacements t outer d) =
      (known t (d.areas.flatMap (·.components))).map (·.identity) :=
  placedIdentities_flatMap (placedIdentities_area _) d.areas

theorem placedIdentities_environment (e : Layout.EnvironmentBox α) :
    placedIdentities (environmentPlacements t e) =
      (known t (e.datacenters.flatMap fun d => d.areas.flatMap (·.components))).map
        (·.identity) :=
  placedIdentities_flatMap (placedIdentities_datacenter _) e.datacenters

theorem placedIdentities_placements :
    placedIdentities (placements t l) = (shown t l).map (·.identity) :=
  placedIdentities_flatMap placedIdentities_environment l.environments

end Placements

theorem map_toFrame_number (frames : List (Frame α)) :
    (number frames).map (·.toFrame) = frames := by
  rw [number, List.map_map]
  exact List.zipIdx_map_fst 0 frames

theorem filterMap_component?_number (frames : List (Frame α)) :
    (number frames).filterMap (·.component?) = frames.filterMap (·.component?) := by
  conv => rhs; rw [← map_toFrame_number frames]
  rw [List.filterMap_map]
  rfl

theorem map_number_number (frames : List (Frame α)) :
    (number frames).map (·.number) = List.range' 0 frames.length := by
  rw [number, List.map_map]
  exact List.zipIdx_map_snd 0 frames

theorem nodup_map_written_number (frames : List (Frame α)) :
    ((number frames).map (·.rectangle.written)).Nodup := by
  have distinct : ((number frames).map (·.number)).Nodup := by
    rw [map_number_number]
    exact List.nodup_range'
  refine List.Pairwise.map _ (fun b b' other same => other ?_) (List.pairwise_map.mp distinct)
  simp only [Box.rectangle, ElementId.written, String.append_right_inj] at same
  have := toDigits_injective (String.ofList_injective same)
  omega

theorem component?_boxes [Coordinate α] :
    (Scene.ofLayout t l).boxes.filterMap (·.component?) = (shown t l).map (·.identity) := by
  rw [← placedIdentities_placements, placedIdentities, ← filterMap_component?_number]
  rfl

theorem nodup_map_written_boxes [Coordinate α] :
    ((Scene.ofLayout t l).boxes.map (·.rectangle.written)).Nodup :=
  nodup_map_written_number _

/-! ## Arrows -/

theorem box_of_node? {boxes : List (Box α)} {id : Identity} {b : Box α}
    (found : node? boxes id = some b) : b ∈ boxes ∧ b.component? = some id := by
  obtain ⟨member, shows⟩ := mem_of_findRev? found
  exact ⟨member, of_decide_eq_true shows⟩

theorem isSome_node?_boxes_iff {boxes : List (Box α)} {id : Identity} :
    (node? boxes id).isSome = true ↔ id ∈ boxes.filterMap (·.component?) := by
  simp [node?]

theorem arrowsFrom_eq_linksFrom (boxes : List (Box α)) (index : Nat) (cs : List Connection) :
    arrowsFrom boxes index cs =
      linksFrom (node? boxes) (fun n c ends => ⟨n, c, ends.1, ends.2⟩) index cs := by
  induction cs generalizing index with
  | nil => rfl
  | cons c cs ih =>
      have same : ends? boxes c = both? (node? boxes) c := rfl
      rw [arrowsFrom, linksFrom, same]
      cases both? (node? boxes) c with
      | none => exact ih index
      | some ends => exact congrArg _ (ih (index + 1))

/-! ## The scene of a layout that presents the topology -/

/-- A box is the only one that shows the component with the given identity, and the only one whose
rectangle has its name. -/
def IsSoleBox (s : Scene α) (id : Identity) (b : Box α) : Prop :=
  s.boxes.filter (fun b' => b'.component? = some id) = [b] ∧
    s.boxes.filter (fun b' => b'.rectangle.written = b.rectangle.written) = [b]

section Presents

variable [Coordinate α] (presents : Presents t l)
include presents

theorem isSome_ends?_scene (c : Connection) :
    (ends? (Scene.ofLayout t l).boxes c).isSome = t.resolves c := by
  have same : ends? (Scene.ofLayout t l).boxes c =
      both? (node? (Scene.ofLayout t l).boxes) c := rfl
  rw [same, isSome_both?, Bool.eq_iff_iff, Bool.and_eq_true, isSome_node?_boxes_iff,
    isSome_node?_boxes_iff, component?_boxes, resolves_iff_shown presents]

theorem map_connection_arrows :
    (Scene.ofLayout t l).arrows.map (·.connection) = t.connections.filter t.resolves := by
  rw [Scene.ofLayout, arrowsFrom_eq_linksFrom, map_linksFrom fun _ _ _ => rfl]
  exact congrArg (t.connections.filter ·) (funext (isSome_ends?_scene presents))

theorem isSoleBox_of_node? {id : Identity} {b : Box α}
    (found : node? (Scene.ofLayout t l).boxes id = some b) :
    IsSoleBox (Scene.ofLayout t l) id b := by
  obtain ⟨member, shows⟩ := box_of_node? found
  refine ⟨filter_eq_singleton ?_ member shows,
    filter_eq_singleton_of_nodup_map nodup_map_written_boxes member⟩
  rw [component?_boxes]
  exact nodup_map_identity_shown presents

theorem isSoleBox_of_mem_arrows {a : Arrow α} (member : a ∈ (Scene.ofLayout t l).arrows) :
    IsSoleBox (Scene.ofLayout t l) a.connection.source a.start ∧
      IsSoleBox (Scene.ofLayout t l) a.connection.target a.stop := by
  rw [Scene.ofLayout, arrowsFrom_eq_linksFrom] at member
  obtain ⟨n, c, ends, found, rfl⟩ := exists_of_mem_linksFrom member
  obtain ⟨start, stop⟩ := both?_eq_some found
  exact ⟨isSoleBox_of_node? presents start, isSoleBox_of_node? presents stop⟩

theorem stats_scene : (Scene.ofLayout t l).stats = fullStats t := by
  have components : (Scene.ofLayout t l).components.length = t.components.length := by
    have distinct := nodup_map_identity_shown presents
    rw [Scene.components, component?_boxes, eraseDups_eq_self distinct, List.length_map,
      length_shown presents]
  have arrows := congrArg List.length (map_connection_arrows presents)
  have dropped : (Scene.ofLayout t l).dropped = t.connections.filter fun c => !t.resolves c := by
    refine List.filter_congr fun c _ => ?_
    rw [← isSome_ends?_scene presents, Option.not_isSome]
    rfl
  rw [List.length_map] at arrows
  rw [Scene.stats, fullStats, length_danglingWarnings, components, arrows, dropped]

end Presents

/-! ## The document -/

/-- The document has the elements of the scene, and among them one arrow for every connection that
resolves, between the boxes of its ends. -/
structure IsDrawnInScene (background : String) (t : Topology) (l : Layout Float32) : Prop where
  content : (Scene.render background t l).content =
    (documentJson background (Scene.ofLayout t l).elements).pretty
  arrows : (Scene.ofLayout t l).arrows.map (·.connection) = t.connections.filter t.resolves
  ends : ∀ a ∈ (Scene.ofLayout t l).arrows,
    IsSoleBox (Scene.ofLayout t l) a.connection.source a.start ∧
      IsSoleBox (Scene.ofLayout t l) a.connection.target a.stop

section Document

variable {l : Layout Float32} (background : String) (presents : Presents t l)
  (some : t.components ≠ [])
include presents some

theorem stats_renderScene : (Scene.render background t l).stats = fullStats t := by
  rw [Scene.render, isEmpty_or_isEmpty_eq_false presents some, if_neg Bool.false_ne_true]
  exact stats_scene presents

theorem isDrawnInScene : IsDrawnInScene background t l where
  content := by
    rw [Scene.render, isEmpty_or_isEmpty_eq_false presents some, if_neg Bool.false_ne_true]
  arrows := map_connection_arrows presents
  ends _ := isSoleBox_of_mem_arrows presents

end Document

end NetDiagram.Proofs.Drawing
