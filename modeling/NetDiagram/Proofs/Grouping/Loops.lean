import Mathlib.Data.List.Forall2
import NetDiagram.Proofs.Grouping.Connections
import NetDiagram.Topology.Check

/-!
# Connections of a component with itself

A topology that was read from a text has no dangling connections, so the check of its connections
finds only self-loops. It compares identities, while the text has names: a loop is reported if and
only if a statement names one path twice, however similar its names may be otherwise.

* `warning?_between`: what the check says about one connection.
* `check_ofStatements`: what it says about all of them.
-/

namespace NetDiagram.Proofs.Grouping
open NetDiagram.Topology

variable {classifier : Classifier} {paths : List Path} {t : Topology}

/-! ## One connection -/

theorem IsGrouping.resolves_between (grouping : IsGrouping classifier paths t)
    {source target : Path} (first : source ∈ paths) (second : target ∈ paths) (number : Nat) :
    t.resolves
      (.between number (declare classifier source) (declare classifier target)) = true := by
  change ((t.component? source.identity).isSome && (t.component? target.identity).isSome) = true
  rw [grouping.component?_of_mem first, grouping.component?_of_mem second]
  rfl

theorem isSelfLoop_between (classifier : Classifier) (number : Nat) (source target : Path) :
    (Connection.between number (declare classifier source)
      (declare classifier target)).isSelfLoop = true ↔ source = target := by
  change decide (source.identity = target.identity) = true ↔ source = target
  rw [decide_eq_true_eq]
  exact ⟨fun same => Naming.identity_injective same, congrArg Path.identity⟩

/-- The warning about the statement with the given number, if it names one path twice. -/
def loopWarning? (numbered : Source.Statement × Nat) : Option Diagnostic :=
  if numbered.1.source.path = numbered.1.target.path then
    some
      { severity := .warning
        message := "connection `" ++ ("conn_" ++ toString numbered.2) ++ "` connects `" ++
          numbered.1.source.path.device ++ "` to itself"
        code := some .selfLoop }
  else none

theorem warning?_between (grouping : IsGrouping classifier paths t) {s : Source.Statement}
    (first : s.source.path ∈ paths) (second : s.target.path ∈ paths) (number : Nat) :
    t.warning? (.between number (declare classifier s.source.path)
      (declare classifier s.target.path)) = loopWarning? (s, number) := by
  have known := grouping.resolves_between first second number
  have loop := isSelfLoop_between classifier number s.source.path s.target.path
  rw [Topology.warning?, known, loopWarning?]
  by_cases same : s.source.path = s.target.path
  · rw [if_pos same, loop.mpr same]
    rfl
  · rw [if_neg same, Bool.eq_false_iff.mpr (mt loop.mp same)]
    rfl

/-! ## All connections -/

theorem check_ofStatements (name : String) (statements : List Source.Statement) :
    (ofStatements name classifier statements).check =
      (statements.zipIdx 1).filterMap loopWarning? := by
  have grouping : IsGrouping classifier _ (ofStatements name classifier statements) :=
    isGrouping_ofStatements name statements
  have fromOne : statements.zipIdx 1 =
      statements.zipIdx.map fun numbered => (numbered.1, 1 + numbered.2) :=
    List.zipIdx_eq_map_add
  rw [Topology.check, connections_ofStatements, List.filterMap_map, fromOne, List.filterMap_map]
  apply List.filterMap_congr
  rintro ⟨s, index⟩ inside
  obtain ⟨first, second⟩ := paths_of_mem (List.fst_mem_of_mem_zipIdx inside)
  rw [Function.comp_apply, warning?_between grouping first second, Function.comp_apply,
    Nat.add_comm]

theorem code_of_loopWarning? {numbered : Source.Statement × Nat} {d : Diagnostic}
    (warned : loopWarning? numbered = some d) : d.code = some .selfLoop := by
  unfold loopWarning? at warned
  split at warned
  · cases warned
    rfl
  · cases warned

theorem forall₂_loops (name : String) (statements : List Source.Statement) :
    List.Forall₂ (fun s c => (ofStatements name classifier statements).warning? c =
      some (selfLoopWarning c) ↔ s.source.path = s.target.path) statements
      (ofStatements name classifier statements).connections := by
  have grouping : IsGrouping classifier _ (ofStatements name classifier statements) :=
    isGrouping_ofStatements name statements
  conv => arg 2; rw [← List.zipIdx_map_fst 0 statements]
  rw [connections_ofStatements, List.forall₂_map_right_iff, List.forall₂_map_left_iff,
    List.forall₂_same]
  rintro ⟨s, index⟩ inside
  obtain ⟨first, second⟩ := paths_of_mem (List.fst_mem_of_mem_zipIdx inside)
  rw [warning?_between grouping first second, loopWarning?]
  split
  · rename_i same
    exact iff_of_true rfl same
  · rename_i other
    exact iff_of_false (Option.some_ne_none _).symm other

/-! ## The statement -/

/-- The check of a topology finds the loops among the statements, and nothing else. -/
structure ReportsLoops (found : Source.Survey) (t : Topology) : Prop where
  /-- There is one warning for every statement from a path to itself, in the order of writing. -/
  warnings : t.check = (found.statements.zipIdx 1).filterMap loopWarning?
  codes : ∀ d ∈ t.check, d.code.map (·.name) = some "E200"
  /-- A connection is called a loop if and only if its statement names one path twice. -/
  connections : List.Forall₂
    (fun s c => t.warning? c = some (selfLoopWarning c) ↔ s.source.path = s.target.path)
    found.statements t.connections

theorem check_reports_written_loops {name text : String} {t : Topology}
    (parsed : Topology.ofText name classifier text = .ok t) :
    ∃ found, Source.survey text.toList = .ok found ∧ ReportsLoops found t := by
  obtain ⟨some, rfl⟩ := ofText_eq_ok_iff.mp parsed
  refine ⟨_, Reading.survey_eq_ok_iff.mpr ⟨rfl, some⟩, ?_⟩
  exact
    { warnings := check_ofStatements name _
      codes := by
        intro d member
        rw [check_ofStatements] at member
        obtain ⟨numbered, -, warned⟩ := List.mem_filterMap.mp member
        rw [code_of_loopWarning? warned]
        rfl
      connections := forall₂_loops name _ }

/-- A statement between two paths that differ in where one name ends, and one that is a loop. -/
def similar : List Char :=
  Reading.statementForm ⟨"a", "b1", "z", "x"⟩ ⟨"ab", "1", "z", "x"⟩ ++
    '\n' :: Reading.statementForm ⟨"a", "1", "z", "x"⟩ ⟨"a", "1", "z", "x"⟩

theorem check_of_similar :
    ∃ t, Topology.ofText "net" {} (.ofList similar) = .ok t ∧
      t.check.map (·.headline) =
        ["warning[E200]: connection `conn_2` connects `x` to itself"] ∧
      ∃ found, Source.survey (String.ofList similar).toList = .ok found ∧ ReportsLoops found t := by
  have some : (Source.Survey.ofText similar).statements ≠ [] := by decide +kernel
  have parsed : Topology.ofText "net" {} (.ofList similar) = .ok _ := ofText_ofList some
  exact ⟨_, parsed, by decide +kernel, check_reports_written_loops parsed⟩

end NetDiagram.Proofs.Grouping
