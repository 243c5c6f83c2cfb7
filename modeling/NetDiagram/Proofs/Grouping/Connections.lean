import Mathlib.Data.List.Basic
import NetDiagram.Proofs.Grouping.Assembly
import NetDiagram.Proofs.Reading.Printing

/-!
# The connections of a topology

Every statement makes one connection, in the order of writing, between the components that its two
paths declare. Nothing is left out: both ends have been declared when the connections are made.
Where a statement was written has no influence on the topology.

* `IsGrouping.component?_of_mem`: a path that is named can be looked up.
* `connections_ofStatements`: the connections of some statements.
* `ofStatements_congr`: only the paths matter.
-/

namespace NetDiagram.Proofs.Grouping
open NetDiagram.Topology

variable {classifier : Classifier} {paths : List Path} {d : Draft}

/-! ## Looking up what has been declared -/

theorem find?_declared {p : Path} (member : p ∈ paths) :
    (paths.map (declare classifier)).find? (fun c => decide (c.identity = p.identity)) =
      some (declare classifier p) := by
  induction paths with
  | nil => cases member
  | cons q qs ih =>
      rw [List.map_cons, List.find?_cons]
      by_cases same : q.identity = p.identity
      · rw [Naming.identity_injective same]
        simp [declare]
      · have other : q ≠ p := fun equal => same (congrArg Path.identity equal)
        have later := (List.mem_cons.mp member).resolve_left (Ne.symm other)
        have unlike : decide ((declare classifier q).identity = p.identity) = false :=
          decide_eq_false same
        rw [unlike, ih later]

theorem Grouped.component?_of_mem (grouped : Grouped classifier paths d) {p : Path}
    (member : p ∈ paths) : d.component? p.identity = some (declare classifier p) := by
  rw [Draft.component?, grouped.components]
  exact find?_declared (List.mem_eraseDups.mpr member)

theorem IsGrouping.component?_of_mem {t : Topology} (grouping : IsGrouping classifier paths t)
    {p : Path} (member : p ∈ paths) : t.component? p.identity = some (declare classifier p) := by
  rw [Topology.component?, List.findRev?_eq_find?_reverse, grouping.components, ← List.map_reverse]
  exact find?_declared (List.mem_reverse.mpr (List.mem_eraseDups.mpr member))

theorem IsGrouping.component?_identity {t : Topology} (grouping : IsGrouping classifier paths t)
    {c : Component} (member : c ∈ t.components) : t.component? c.identity = some c := by
  rw [grouping.components] at member
  obtain ⟨p, inside, rfl⟩ := List.mem_map.mp member
  exact grouping.component?_of_mem (List.mem_eraseDups.mp inside)

theorem paths_of_mem {statements : List Source.Statement} {s : Source.Statement}
    (member : s ∈ statements) :
    s.source.path ∈ (statements.flatMap (·.endpoints)).map (·.path) ∧
      s.target.path ∈ (statements.flatMap (·.endpoints)).map (·.path) := by
  have inside : ∀ e ∈ s.endpoints, e.path ∈ (statements.flatMap (·.endpoints)).map (·.path) := by
    intro e ends
    apply List.mem_map_of_mem
    exact List.mem_flatMap.mpr ⟨s, member, ends⟩
  constructor
  · exact inside s.source (by simp [Source.Statement.endpoints])
  · exact inside s.target (by simp [Source.Statement.endpoints])

/-! ## Links -/

theorem links_register (d : Draft) (c : Component) : (d.register c).links = d.links := by
  unfold Draft.register
  split <;> rfl

theorem links_foldl_add (statements : List Source.Statement) (d : Draft) :
    (statements.foldl (Draft.add classifier) d).links =
      d.links ++ statements.map fun s => (s.source.path.identity, s.target.path.identity) := by
  induction statements generalizing d with
  | nil => simp
  | cons s ss ih =>
      have first : (d.add classifier s).links =
          d.links ++ [(s.source.path.identity, s.target.path.identity)] := by
        simp only [Draft.add, links_register]
        rfl
      rw [List.foldl_cons, ih, first, List.append_assoc, List.map_cons, List.singleton_append]

theorem connections_ofStatements (name : String) (statements : List Source.Statement) :
    (ofStatements name classifier statements).connections =
      statements.zipIdx.map fun (s, index) => .between (index + 1)
        (declare classifier s.source.path) (declare classifier s.target.path) := by
  have start : Grouped classifier [] {} := grouped_nil
  have grouped := grouped_foldl_add start statements
  rw [List.nil_append] at grouped
  simp only [ofStatements, Draft.connections, links_foldl_add, List.nil_append, List.zipIdx_map,
    List.filterMap_map]
  rw [← List.filterMap_eq_map]
  apply List.filterMap_congr
  rintro ⟨s, index⟩ inside
  obtain ⟨first, second⟩ := paths_of_mem (List.fst_mem_of_mem_zipIdx inside)
  simp [grouped.component?_of_mem first, grouped.component?_of_mem second]

theorem exists_ends {name : String} {statements : List Source.Statement} {c : Connection}
    (member : c ∈ (ofStatements name classifier statements).connections) :
    ∃ number, ∃ source ∈ (ofStatements name classifier statements).components,
      ∃ target ∈ (ofStatements name classifier statements).components,
        c = .between number source target := by
  have grouping : IsGrouping classifier _ (ofStatements name classifier statements) :=
    isGrouping_ofStatements name statements
  rw [connections_ofStatements] at member
  obtain ⟨⟨s, index⟩, inside, rfl⟩ := List.mem_map.mp member
  have known {p : Path} (named : p ∈ (statements.flatMap (·.endpoints)).map (·.path)) :
      declare classifier p ∈ (ofStatements name classifier statements).components := by
    rw [grouping.components]
    exact List.mem_map_of_mem (List.mem_eraseDups.mpr named)
  obtain ⟨first, second⟩ := paths_of_mem (List.fst_mem_of_mem_zipIdx inside)
  exact ⟨index + 1, _, known first, _, known second, rfl⟩

/-! ## What the topology depends on -/

theorem ofStatements_congr {statements statements' : List Source.Statement}
    (same : statements.map Reading.endsOf = statements'.map Reading.endsOf) (name : String) :
    ofStatements name classifier statements = ofStatements name classifier statements' := by
  have folds (d : Draft) : statements.foldl (Draft.add classifier) d =
      statements'.foldl (Draft.add classifier) d := by
    induction statements generalizing statements' d with
    | nil =>
        rw [List.map_eq_nil_iff.mp same.symm]
    | cons s ss ih =>
        cases statements' with
        | nil => simp at same
        | cons s' ss' =>
            obtain ⟨first, later⟩ := List.cons.inj same
            obtain ⟨source, target⟩ := Prod.mk.inj first
            have step : d.add classifier s = d.add classifier s' := by
              simp only [Draft.add, source, target]
            rw [List.foldl_cons, List.foldl_cons, step, ih later]
  rw [ofStatements, ofStatements, folds]

end NetDiagram.Proofs.Grouping
