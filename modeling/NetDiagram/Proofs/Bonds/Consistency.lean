import NetDiagram.Proofs.Bonds.Assembly

/-!
# Both sides of a bond agree

A label names its rectangle and an arrow its two ends, and the rectangles name their labels and
arrows. Whatever the topology and the layout, the two sides say the same in every scene.

* `IsConsistent`: what it is for the elements of a scene to agree.
* `bonds_agree`: the elements of every document do.
-/

namespace NetDiagram.Proofs.Bonds
open Scene

variable {α : Type}

/-- The elements of a scene have names of their own. Every text is the label of one rectangle and
every rectangle has one label, if there is more than a placeholder. Every arrow joins rectangles,
and is bound to these alone and to each of them once. Nothing else is bound to anything. -/
structure IsConsistent [Coordinate α] (es : List (Element α)) : Prop where
  names : (es.map (·.id.written)).Nodup
  kinds : ∀ e ∈ es, nameOf e.shape e.id.index = e.id
  texts : es ≠ [placeholderElement] → ∀ e ∈ es, ∀ content container,
    e.shape = .text content container →
      ∃ r ∈ es, r.shape = .rectangle ∧ container = some r.id ∧ r.bound.count e.id = 1
  rectangles : ∀ r ∈ es, r.shape = .rectangle → r.bound.countP (·.kind = "text") = 1
  arrows : ∀ a ∈ es, ∀ start stop way, a.shape = .arrow start stop way →
    (∃ r ∈ es, r.shape = .rectangle ∧ start = some r.id) ∧
    (∃ r ∈ es, r.shape = .rectangle ∧ stop = some r.id) ∧
    ∀ e ∈ es, e.bound.count a.id = if start = some e.id ∨ stop = some e.id then 1 else 0
  entries : ∀ e ∈ es, ∀ id ∈ e.bound,
    (∃ l ∈ es, l.id = id ∧ ∃ content, l.shape = .text content (some e.id)) ∨
    (∃ a ∈ es, a.id = id ∧ ∃ start stop way, a.shape = .arrow start stop way ∧
      (start = some e.id ∨ stop = some e.id))
  others : ∀ e ∈ es, e.shape ≠ .rectangle → e.bound = []

/-! ## Names -/

theorem written_injective : Function.Injective ElementId.written := by
  intro i j same
  cases i <;> cases j <;> simp [ElementId.written, ← String.toList_inj] at same <;>
    exact congrArg _ (Drawing.toDigits_injective same)

theorem IsIndexed.nodup_written {es : Arena α} (indexed : IsIndexed es) :
    (es.map (·.id.written)).Nodup := by
  have distinct : (es.map (·.id.index)).Nodup := by
    rw [indexed]
    exact List.nodup_range
  refine Drawing.nodup_map_of_nodup_map distinct fun e e' same => ?_
  exact congrArg ElementId.index (written_injective same)

/-! ## Boxes and arrows -/

theorem rectangle_inj {b b' : Box α} : b.rectangle = b'.rectangle ↔ b.number = b'.number := by
  rw [Box.rectangle, Box.rectangle, ElementId.rectangle.injEq]
  omega

theorem mem_boundTo {as : List (Arrow α)} {b : Box α} {id : ElementId} :
    id ∈ boundTo as b ↔ id = b.text ∨
      ∃ a ∈ as, (b.number = a.start.number ∨ b.number = a.stop.number) ∧ a.id = id := by
  simp only [boundTo, List.mem_cons, List.mem_map, List.mem_filter, Arrow.touches,
    Bool.or_eq_true, beq_iff_eq, and_assoc, eq_comm (a := b.number)]

theorem countP_boundTo (as : List (Arrow α)) (b : Box α) :
    (boundTo as b).countP (·.kind = "text") = 1 := by
  have arrows : ((as.filter (·.touches b)).map (·.id)).countP (·.kind = "text") = 0 := by
    rw [List.countP_eq_zero]
    intro id member
    obtain ⟨a, -, rfl⟩ := List.mem_map.mp member
    change ¬decide ("arrow" = "text") = true
    decide
  rw [boundTo, List.countP_cons, arrows]
  rfl

section Numbered

variable {bs : List (Box α)} {as : List (Arrow α)} (numbered : IsNumbered bs as)
include numbered

theorem nodup_map_index : (as.map (·.index)).Nodup := by
  rw [numbered.arrows]
  exact List.nodup_range'

theorem eq_of_index_eq {a a' : Arrow α} (member : a ∈ as) (member' : a' ∈ as)
    (same : a'.index = a.index) : a' = a :=
  Drawing.eq_of_nodup_map (nodup_map_index numbered) member member' same

theorem nodup_boundTo (b : Box α) : (boundTo as b).Nodup := by
  have distinct : (as.map (·.id)).Nodup :=
    Drawing.nodup_map_of_nodup_map (nodup_map_index numbered) fun _ _ => ElementId.arrow.inj
  refine List.nodup_cons.mpr ⟨?_, distinct.sublist (List.filter_sublist.map _)⟩
  intro inside
  obtain ⟨a, -, same⟩ := List.mem_map.mp inside
  cases same

theorem count_boundTo {a : Arrow α} (member : a ∈ as) (b : Box α) :
    (boundTo as b).count a.id =
      if b.number = a.start.number ∨ b.number = a.stop.number then 1 else 0 := by
  have bound : a.id ∈ boundTo as b ↔ b.number = a.start.number ∨ b.number = a.stop.number := by
    rw [mem_boundTo]
    constructor
    · rintro (text | ⟨a', member', touches, same⟩)
      · cases text
      · cases eq_of_index_eq numbered member member' (ElementId.arrow.inj same)
        exact touches
    · intro touches
      exact .inr ⟨a, member, touches, rfl⟩
  simp only [(nodup_boundTo numbered b).count, bound]

theorem count_text_boundTo (b : Box α) : (boundTo as b).count b.text = 1 :=
  (nodup_boundTo numbered b).count.trans (if_pos List.mem_cons_self)

end Numbered

theorem isNumbered_arrowsFrom {bs : List (Box α)}
    (numbers : bs.map (·.number) = List.range bs.length) (cs : List Connection) :
    IsNumbered bs (arrowsFrom bs (2 * bs.length) cs) where
  boxes := numbers
  arrows := by
    rw [Drawing.arrowsFrom_eq_linksFrom]
    exact Drawing.map_number_linksFrom fun _ _ _ => rfl

def IsJoined (bs : List (Box α)) (a : Arrow α) : Prop := a.start ∈ bs ∧ a.stop ∈ bs

theorem isJoined_of_mem_arrowsFrom {bs : List (Box α)} {n : Nat} {cs : List Connection}
    {a : Arrow α} (member : a ∈ arrowsFrom bs n cs) : IsJoined bs a := by
  rw [Drawing.arrowsFrom_eq_linksFrom] at member
  obtain ⟨n, c, ends, found, rfl⟩ := Drawing.exists_of_mem_linksFrom member
  obtain ⟨start, stop⟩ := Drawing.both?_eq_some found
  exact ⟨(Drawing.box_of_node? start).1, (Drawing.box_of_node? stop).1⟩

/-! ## The elements of boxes and arrows -/

section Elements

variable [Coordinate α] {bs : List (Box α)} {as : List (Arrow α)}

theorem elementsOf_cases {e : Element α} (member : e ∈ elementsOf bs as) :
    (∃ b ∈ bs, e = rectangleOf b (boundTo as b)) ∨ (∃ b ∈ bs, e = labelOf b) ∨
      ∃ a ∈ as, e = a.element := by
  rcases List.mem_append.mp member with box | arrow
  · obtain ⟨b, inside, part⟩ := List.mem_flatMap.mp box
    rw [elements_eq, List.mem_cons, List.mem_singleton] at part
    exact part.elim (fun rectangle => .inl ⟨b, inside, rectangle⟩)
      fun label => .inr (.inl ⟨b, inside, label⟩)
  · obtain ⟨a, inside, rfl⟩ := List.mem_map.mp arrow
    exact .inr (.inr ⟨a, inside, rfl⟩)

theorem rectangleOf_mem {b : Box α} (member : b ∈ bs) :
    rectangleOf b (boundTo as b) ∈ elementsOf bs as :=
  List.mem_append_left _ (List.mem_flatMap.mpr ⟨b, member, List.mem_cons_self⟩)

theorem labelOf_mem {b : Box α} (member : b ∈ bs) : labelOf b ∈ elementsOf bs as :=
  List.mem_append_left _
    (List.mem_flatMap.mpr ⟨b, member, List.mem_cons_of_mem _ List.mem_cons_self⟩)

theorem element_mem {a : Arrow α} (member : a ∈ as) : a.element ∈ elementsOf bs as :=
  List.mem_append_right _ (List.mem_map_of_mem member)

theorem isConsistent_elementsOf (numbered : IsNumbered bs as) (joined : ∀ a ∈ as, IsJoined bs a) :
    IsConsistent (elementsOf bs as) where
  names := (isIndexed_elementsOf numbered).nodup_written
  kinds e member := by
    obtain ⟨b, -, rfl⟩ | ⟨b, -, rfl⟩ | ⟨a, -, rfl⟩ := elementsOf_cases member <;> rfl
  texts _ e member content container shape := by
    obtain ⟨b, -, rfl⟩ | ⟨b, inside, rfl⟩ | ⟨a, -, rfl⟩ := elementsOf_cases member
    · cases shape
    · cases shape
      exact ⟨_, rectangleOf_mem inside, rfl, rfl, count_text_boundTo numbered b⟩
    · cases shape
  rectangles r member shape := by
    obtain ⟨b, -, rfl⟩ | ⟨b, -, rfl⟩ | ⟨a, -, rfl⟩ := elementsOf_cases member
    · exact countP_boundTo as b
    · cases shape
    · cases shape
  arrows e member start stop way shape := by
    obtain ⟨b, -, rfl⟩ | ⟨b, -, rfl⟩ | ⟨a, inside, rfl⟩ := elementsOf_cases member
    · cases shape
    · cases shape
    · cases shape
      obtain ⟨first, last⟩ := joined a inside
      refine ⟨⟨_, rectangleOf_mem first, rfl, rfl⟩, ⟨_, rectangleOf_mem last, rfl, rfl⟩, ?_⟩
      intro e member
      obtain ⟨b, -, rfl⟩ | ⟨b, -, rfl⟩ | ⟨a', -, rfl⟩ := elementsOf_cases member
      · have count := count_boundTo numbered inside b
        simp only [← rectangle_inj, eq_comm (a := b.rectangle)] at count
        simp only [Option.some.injEq]
        exact count
      · rfl
      · rfl
  entries e member id bound := by
    obtain ⟨b, inside, rfl⟩ | ⟨b, -, rfl⟩ | ⟨a, -, rfl⟩ := elementsOf_cases member
    · obtain rfl | ⟨a, arrow, touches, rfl⟩ := mem_boundTo.mp bound
      · exact .inl ⟨_, labelOf_mem inside, rfl, b.label, rfl⟩
      · refine .inr ⟨_, element_mem arrow, rfl, _, _, _, rfl, ?_⟩
        exact touches.imp (fun same => congrArg some (rectangle_inj.mpr same.symm))
          fun same => congrArg some (rectangle_inj.mpr same.symm)
    · cases bound
    · cases bound
  others e member shape := by
    obtain ⟨b, -, rfl⟩ | ⟨b, -, rfl⟩ | ⟨a, -, rfl⟩ := elementsOf_cases member
    · exact absurd rfl shape
    · rfl
    · rfl

theorem isConsistent_ofLayout (t : Topology) (l : Layout α) :
    IsConsistent (Scene.ofLayout t l).elements :=
  isConsistent_elementsOf (isNumbered_arrowsFrom (isNumbered_number _).boxes _)
    fun _ => isJoined_of_mem_arrowsFrom

theorem isConsistent_placeholder : IsConsistent [(placeholderElement : Element α)] where
  names := List.pairwise_singleton _ _
  kinds e member := by
    cases List.mem_singleton.mp member
    rfl
  texts several := absurd rfl several
  rectangles e member shape := by
    cases List.mem_singleton.mp member
    cases shape
  arrows e member start stop way shape := by
    cases List.mem_singleton.mp member
    cases shape
  entries e member id bound := by
    cases List.mem_singleton.mp member
    cases bound
  others e member _ := by
    cases List.mem_singleton.mp member
    rfl

end Elements

/-! ## Every document -/

/-- Drawing a topology step by step never misses a place. It gives the elements of the document,
and these agree with each other. -/
theorem bonds_agree (background : String) (t : Topology) (l : Layout Float32) :
    ∃ es, draw t l = some es ∧
      (Scene.render background t l).content = (documentJson background es).pretty ∧
      IsConsistent es := by
  rw [draw, Scene.render]
  by_cases none : (t.isEmpty || l.isEmpty) = true
  · rw [if_pos none, if_pos none]
    exact ⟨_, rfl, rfl, isConsistent_placeholder⟩
  · rw [if_neg none, if_neg none]
    exact ⟨_, assemble_eq t l, rfl, isConsistent_ofLayout t l⟩

end NetDiagram.Proofs.Bonds
