import NetDiagram.Proofs.Bonds.Arena

/-!
# What is put together is the scene

Once all boxes are drawn, every connection with two ends adds one arrow and binds it to rectangles
somewhere in the list. Read back, the list holds at any time the elements of the boxes and of the
arrows that are there so far, so after the last step it holds the elements of the scene.

* `bindArrow_push`, `connect_elementsOf`: what one connection does.
* `assemble_eq`: what all steps do.
-/

namespace NetDiagram.Proofs.Bonds
open Coordinate Scene

variable {α : Type}

/-! ## Places in the list -/

/-- Every element knows its place. -/
def IsIndexed (es : Arena α) : Prop := es.map (·.id.index) = List.range es.length

theorem index_getElem {es : Arena α} (indexed : IsIndexed es) {i : Nat} (inside : i < es.length) :
    es[i].id.index = i := by
  have here : (es.map (·.id.index))[i]? = some i := by rw [indexed, List.getElem?_range inside]
  rw [List.getElem?_map, List.getElem?_eq_getElem inside] at here
  exact Option.some.inj here

theorem getElem?_of_mem {es : Arena α} (indexed : IsIndexed es) {e : Element α}
    (member : e ∈ es) : es[e.id.index]? = some e := by
  obtain ⟨i, inside, rfl⟩ := List.getElem_of_mem member
  rw [index_getElem indexed inside, List.getElem?_eq_getElem inside]

theorem modify_eq_map {es : Arena α} (indexed : IsIndexed es) (i : Nat)
    (f : Element α → Element α) :
    es.modify i f = es.map fun e => if e.id.index = i then f e else e := by
  refine List.ext_getElem (by simp) fun j hj _ => ?_
  rw [List.getElem_modify, List.getElem_map, index_getElem indexed (by simpa using hj)]
  by_cases here : i = j <;> simp [here, Ne.symm]

theorem id_addBoundOnce (id : ElementId) (e : Element α) : (addBoundOnce id e).id = e.id := by
  unfold addBoundOnce
  split <;> rfl

def bindAt (i : Nat) (id : ElementId) (e : Element α) : Element α :=
  if e.id.index = i then addBoundOnce id e else e

theorem bindEnds_eq {es : Arena α} (indexed : IsIndexed es) (id : ElementId) (start stop : Nat) :
    bindEnds id start stop es = (es.map (bindAt start id)).map (bindAt stop id) := by
  have indexed' : IsIndexed (es.map (bindAt start id)) := by
    have same : (fun e : Element α => e.id.index) ∘ bindAt start id = (·.id.index) := by
      funext e
      simp only [Function.comp_apply, bindAt, apply_ite Element.id, id_addBoundOnce, ite_self]
    rw [IsIndexed, List.map_map, List.length_map, same]
    exact indexed
  rw [bindEnds, modify_eq_map indexed]
  exact modify_eq_map indexed' stop _

/-- The arrow at the end of the list is bound to its ends, which are before it. -/
theorem bindArrow_concat {es : Arena α} {arrow first last : Element α} {start stop : Nat}
    (here : es[start]? = some first) (there : es[stop]? = some last) :
    bindArrow (es ++ [arrow]) es.length start stop =
      some (bindEnds arrow.id start stop (es ++ [setEnds first.id last.id arrow])) := by
  have inside {i : Nat} {e : Element α} (found : es[i]? = some e) :
      (es ++ [arrow])[i]? = some e := by
    rw [List.getElem?_append_left (List.getElem?_eq_some_iff.mp found).1, found]
  have ends := modify_append es [arrow] 0 (setEnds first.id last.id)
  rw [Nat.add_zero] at ends
  rw [bindArrow, List.getElem?_concat_length, inside here, inside there]
  exact congrArg (fun es => some (bindEnds arrow.id start stop es)) ends

theorem isIndexed_concat {es : Arena α} {e : Element α} (indexed : IsIndexed es)
    (next : e.id.index = es.length) : IsIndexed (es ++ [e]) := by
  rw [IsIndexed, List.map_append, indexed, List.length_append, List.length_singleton,
    List.range_succ, List.map_singleton, next]

/-! ## Boxes and arrows by their numbers -/

/-- Boxes are numbered from zero, and arrows have the places after those of all boxes. -/
structure IsNumbered (bs : List (Box α)) (as : List (Arrow α)) : Prop where
  boxes : bs.map (·.number) = List.range bs.length
  arrows : as.map (·.index) = List.range' (2 * bs.length) as.length

section Numbered

variable {bs : List (Box α)} {as : List (Arrow α)} (numbered : IsNumbered bs as)
include numbered

theorem index_bounds {a : Arrow α} (member : a ∈ as) :
    2 * bs.length ≤ a.index ∧ a.index < 2 * bs.length + as.length := by
  have : a.index ∈ as.map (·.index) := List.mem_map_of_mem member
  rw [numbered.arrows, List.mem_range'_1] at this
  exact this

theorem number_lt {b : Box α} (member : b ∈ bs) : b.number < bs.length := by
  have : b.number ∈ bs.map (·.number) := List.mem_map_of_mem member
  rwa [numbered.boxes, List.mem_range] at this

theorem isNumbered_concat {a : Arrow α} (next : a.index = 2 * bs.length + as.length) :
    IsNumbered bs (as ++ [a]) where
  boxes := numbered.boxes
  arrows := by
    rw [List.map_append, numbered.arrows, List.length_append, List.length_singleton,
      ← List.range'_append_1, List.map_singleton, next]
    rfl

end Numbered

/-! ## One arrow more -/

def boundTo (as : List (Arrow α)) (b : Box α) : List ElementId :=
  b.text :: (as.filter (·.touches b)).map (·.id)

theorem boundTo_concat (as : List (Arrow α)) (a : Arrow α) (b : Box α) :
    boundTo (as ++ [a]) b =
      if a.start.number = b.number ∨ a.stop.number = b.number then boundTo as b ++ [a.id]
      else boundTo as b := by
  by_cases touches : a.touches b = true
  · have : a.start.number = b.number ∨ a.stop.number = b.number := by
      simpa [Arrow.touches] using touches
    simp [boundTo, touches, this]
  · have : ¬(a.start.number = b.number ∨ a.stop.number = b.number) := by
      simpa [Arrow.touches] using touches
    simp [boundTo, touches, this]

section Connections

variable [Coordinate α]

def elementsOf (bs : List (Box α)) (as : List (Arrow α)) : Arena α :=
  bs.flatMap (·.elements as) ++ as.map (·.element)

theorem map_index_boxes {bs : List (Box α)} {k : Nat} (as : List (Arrow α))
    (numbers : bs.map (·.number) = List.range' k bs.length) :
    (bs.flatMap (·.elements as)).map (·.id.index) = List.range' (2 * k) (2 * bs.length) := by
  induction bs generalizing k with
  | nil => rfl
  | cons b bs ih =>
      rw [List.map_cons, List.length_cons, List.range'_succ, List.cons.injEq] at numbers
      obtain ⟨first, later⟩ := numbers
      rw [List.flatMap_cons, List.map_append, ih later, ← first, List.length_cons,
        show 2 * (bs.length + 1) = 2 * bs.length + 1 + 1 by omega, List.range'_succ,
        List.range'_succ]
      rfl

theorem length_elementsOf (bs : List (Box α)) (as : List (Arrow α)) :
    (elementsOf bs as).length = 2 * bs.length + as.length := by
  rw [elementsOf, List.length_append, length_elements, List.length_map]

theorem isIndexed_elementsOf {bs : List (Box α)} {as : List (Arrow α)}
    (numbered : IsNumbered bs as) : IsIndexed (elementsOf bs as) := by
  have boxes := numbered.boxes
  rw [List.range_eq_range'] at boxes
  have arrows : (as.map (·.element)).map (·.id.index) = as.map (·.index) := by
    rw [List.map_map]
    rfl
  rw [IsIndexed, elementsOf, List.map_append, map_index_boxes as boxes, arrows, numbered.arrows,
    List.length_append, length_elements, List.length_map, List.range_eq_range',
    ← List.range'_append_1, Nat.zero_add]

def rectangleOf (b : Box α) (bound : List ElementId) : Element α :=
  .ofBounds b.rectangle .rectangle b.bounds b.stroke bound

def labelOf (b : Box α) : Element α :=
  .ofBounds b.text (.text b.label (some b.rectangle)) b.labelBounds ink []

theorem elements_eq (as : List (Arrow α)) (b : Box α) :
    b.elements as = [rectangleOf b (boundTo as b), labelOf b] := rfl

theorem bindAt_labelOf (b : Box α) (k : Nat) (id : ElementId) :
    bindAt (2 * k) id (labelOf b) = labelOf b := by
  refine if_neg ?_
  change ¬2 * b.number + 1 = 2 * k
  omega

theorem bindAt_rectangleOf (b : Box α) (k : Nat) (id : ElementId) (bound : List ElementId) :
    bindAt (2 * k) id (rectangleOf b bound) =
      rectangleOf b (if k = b.number ∧ id ∉ bound then bound ++ [id] else bound) := by
  have place : (rectangleOf b bound).id.index = 2 * k ↔ k = b.number := by
    change 2 * b.number = 2 * k ↔ _
    omega
  by_cases here : k = b.number
  · rw [bindAt, if_pos (place.mpr here), addBoundOnce]
    change (if id ∈ bound then rectangleOf b bound else rectangleOf b (bound ++ [id])) = _
    by_cases inside : id ∈ bound <;> simp [here, inside]
  · rw [bindAt, if_neg fun there => here (place.mp there)]
    simp [here]

theorem bindAt_elements {as : List (Arrow α)} {a : Arrow α} (new : a.id ∉ as.map (·.id))
    (b : Box α) :
    ((b.elements as).map (bindAt (2 * a.start.number) a.id)).map
      (bindAt (2 * a.stop.number) a.id) = b.elements (as ++ [a]) := by
  have absent : a.id ∉ boundTo as b := by
    have apart : a.id ≠ b.text := ElementId.noConfusion
    simp_all [boundTo]
  simp only [elements_eq, List.map_cons, List.map_nil, bindAt_labelOf, bindAt_rectangleOf,
    boundTo_concat]
  by_cases start : a.start.number = b.number <;> by_cases stop : a.stop.number = b.number <;>
    simp [start, stop, absent]

theorem bindAt_of_arrow {n k : Nat} {a : Arrow α} (after : 2 * n ≤ a.index) (before : k < n)
    (id : ElementId) : bindAt (2 * k) id a.element = a.element := by
  refine if_neg ?_
  change ¬a.index = 2 * k
  omega

section Step

variable {bs : List (Box α)} {as : List (Arrow α)} (numbered : IsNumbered bs as)
include numbered

theorem getElem?_rectangle {b : Box α} (member : b ∈ bs) :
    (elementsOf bs as)[2 * b.number]? = some (rectangleOf b (boundTo as b)) := by
  have inside : rectangleOf b (boundTo as b) ∈ elementsOf bs as :=
    List.mem_append_left _ (List.mem_flatMap.mpr ⟨b, member, List.mem_cons_self⟩)
  exact getElem?_of_mem (isIndexed_elementsOf numbered) inside

/-- An arrow that is pushed and bound to its ends is an arrow of the scene like all others. -/
theorem bindArrow_push {start stop : Box α} (first : start ∈ bs) (last : stop ∈ bs)
    (c : Connection) :
    let a : Arrow α := ⟨2 * bs.length + as.length, c, start, stop⟩
    bindArrow (push (elementsOf bs as) (.arrow none none a.way) a.bounds ink)
      (elementsOf bs as).length (2 * start.number) (2 * stop.number) =
      some (elementsOf bs (as ++ [a])) := by
  intro a
  have bound : bindArrow (push (elementsOf bs as) (.arrow none none a.way) a.bounds ink)
      (elementsOf bs as).length (2 * start.number) (2 * stop.number) =
      some (bindEnds a.element.id (2 * start.number) (2 * stop.number)
        (elementsOf bs as ++ [a.element])) := by
    rw [push, bindArrow_concat (getElem?_rectangle numbered first)
      (getElem?_rectangle numbered last), length_elementsOf]
    rfl
  have place : (elementsOf bs as).length = a.element.id.index := length_elementsOf bs as
  have indexed := isIndexed_concat (isIndexed_elementsOf numbered) place.symm
  have concat : elementsOf bs as ++ [a.element] =
      bs.flatMap (·.elements as) ++ (as ++ [a]).map (·.element) := by
    simp [elementsOf]
  have new : a.id ∉ as.map (·.id) := by
    intro inside
    obtain ⟨a', member, same⟩ := List.mem_map.mp inside
    have index : a'.index = a.index := ElementId.arrow.inj same
    exact absurd index (Nat.ne_of_lt (index_bounds numbered member).2)
  have boxes : ((bs.flatMap (·.elements as)).map (bindAt (2 * start.number) a.element.id)).map
      (bindAt (2 * stop.number) a.element.id) = bs.flatMap (·.elements (as ++ [a])) := by
    rw [List.map_flatMap, List.map_flatMap]
    exact congrArg (bs.flatMap ·) (funext (bindAt_elements new))
  have arrows : (((as ++ [a]).map (·.element)).map (bindAt (2 * start.number) a.element.id)).map
      (bindAt (2 * stop.number) a.element.id) = (as ++ [a]).map (·.element) := by
    rw [List.map_map, List.map_map]
    refine List.map_congr_left fun a' member => ?_
    have after := (index_bounds (isNumbered_concat numbered rfl) member).1
    rw [Function.comp_apply, Function.comp_apply, bindAt_of_arrow after (number_lt numbered first),
      bindAt_of_arrow after (number_lt numbered last)]
  rw [bound, bindEnds_eq indexed, concat, List.map_append, List.map_append, boxes, arrows,
    elementsOf]

theorem connect_elementsOf (c : Connection) :
    connect (fun id => (node? bs id).map (2 * ·.number)) (elementsOf bs as) c =
      some (elementsOf bs (as ++ ((ends? bs c).map fun ends =>
        ⟨2 * bs.length + as.length, c, ends.1, ends.2⟩).toList)) := by
  rw [connect, ends?]
  cases source : node? bs c.source with
  | none => simp
  | some start =>
      cases target : node? bs c.target with
      | none => simp
      | some stop =>
          have first := (Drawing.box_of_node? source).1
          have last := (Drawing.box_of_node? target).1
          simp only [Option.map_some, Option.bind_eq_bind, Option.bind_some,
            getElem?_rectangle numbered first, getElem?_rectangle numbered last]
          exact bindArrow_push numbered first last c

end Step

theorem foldlM_connect {bs : List (Box α)} {as : List (Arrow α)} (numbered : IsNumbered bs as)
    (cs : List Connection) :
    cs.foldlM (connect fun id => (node? bs id).map (2 * ·.number)) (elementsOf bs as) =
      some (elementsOf bs (as ++ arrowsFrom bs (2 * bs.length + as.length) cs)) := by
  -- After every connection the list holds the elements for the arrows that are there so far.
  induction cs generalizing as with
  | nil => simp [arrowsFrom]
  | cons c cs ih =>
      rw [List.foldlM_cons, connect_elementsOf numbered, arrowsFrom]
      cases found : ends? bs c with
      | none => simpa using ih numbered
      | some ends =>
          have later := ih (isNumbered_concat numbered
            (a := ⟨2 * bs.length + as.length, c, ends.1, ends.2⟩) rfl)
          simpa [Nat.add_assoc] using later

end Connections

/-! ## The whole scene -/

theorem isNumbered_number (fs : List (Frame α)) : IsNumbered (number fs) [] where
  boxes := by rw [Drawing.map_number_number, length_number, List.range_eq_range']
  arrows := rfl

/-- Step by step, the elements of the scene are put together, and nothing is missing on the way. -/
theorem assemble_eq [Coordinate α] (t : Topology) (l : Layout α) :
    assemble t l = some (Scene.ofLayout t l).elements := by
  have drawn := foldlM_place (([] : List (Frame α))) (placements t l)
  have connected := foldlM_connect
    (isNumbered_number ((placements t l).filterMap (·.frame?))) t.connections
  have start : draftOf ([] : List (Frame α)) = {} := rfl
  rw [assemble, ← start, drawn, Option.bind_eq_bind, Option.bind_some]
  simpa [draftOf, elementsOf, Scene.ofLayout, Scene.elements] using connected

end NetDiagram.Proofs.Bonds
