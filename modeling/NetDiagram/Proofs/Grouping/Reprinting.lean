import NetDiagram.Proofs.Grouping.Connections

/-!
# Topologies can be written down

A topology that was read from a text is described in full by its connections. Written as one
statement for each of them, with the names that the topology itself gives for both ends, it is read
back as it is, and nothing in the new text calls for a warning. Whatever else the first text held,
and how its names were spelled, leaves no trace.

* `written?_ofStatements`: how the topology of some statements is written.
* `ofText_written`: what is read back.
-/

namespace NetDiagram.Proofs.Grouping
open NetDiagram.Topology

variable {classifier : Classifier}

/-- The line for a connection, with the names of its ends. -/
def writtenLine? (t : Topology) (c : Connection) : Option (List Char) := do
  let source ← t.component? c.source
  let target ← t.component? c.target
  return Reading.statementForm source.path target.path

/-- The text with one line for every connection, if the ends of all of them are known. -/
def written? (t : Topology) : Option String :=
  (t.connections.mapM (writtenLine? t)).map fun lines => .ofList (['\n'].intercalate lines)

theorem mapM_eq_some {α β : Type} {f : α → Option β} {g : α → β} {xs : List α}
    (each : ∀ x ∈ xs, f x = some (g x)) : xs.mapM f = some (xs.map g) := by
  induction xs with
  | nil => rfl
  | cons x xs ih =>
      obtain ⟨first, later⟩ := List.forall_mem_cons.mp each
      rw [List.mapM_cons, first, ih later]
      rfl

theorem writtenLine?_of_mem {name : String} {statements : List Source.Statement}
    {s : Source.Statement} (member : s ∈ statements) (number : Nat) :
    writtenLine? (ofStatements name classifier statements) (.between number
      (declare classifier s.source.path) (declare classifier s.target.path)) =
        some (Reading.statementLine (Reading.endsOf s)) := by
  have grouping : IsGrouping classifier _ (ofStatements name classifier statements) :=
    isGrouping_ofStatements name statements
  obtain ⟨first, second⟩ := paths_of_mem member
  have source := grouping.component?_of_mem first
  have target := grouping.component?_of_mem second
  change (do
    let source ← (ofStatements name classifier statements).component? s.source.path.identity
    let target ← (ofStatements name classifier statements).component? s.target.path.identity
    return Reading.statementForm source.path target.path) = _
  rw [source, target]
  rfl

theorem written?_ofStatements (name : String) (statements : List Source.Statement) :
    written? (ofStatements name classifier statements) =
      some (.ofList (Reading.printed (statements.map Reading.endsOf))) := by
  have lines : (statements.zipIdx.map fun s => Reading.statementLine (Reading.endsOf s.1)) =
      (statements.map Reading.endsOf).map Reading.statementLine := by
    conv => rhs; rw [← List.zipIdx_map_fst 0 statements]
    simp only [List.map_map, Function.comp_def]
  have each : ∀ s ∈ statements.zipIdx, writtenLine? (ofStatements name classifier statements)
      (.between (s.2 + 1) (declare classifier s.1.source.path)
        (declare classifier s.1.target.path)) =
          some (Reading.statementLine (Reading.endsOf s.1)) := by
    rintro ⟨s, index⟩ inside
    exact writtenLine?_of_mem (List.fst_mem_of_mem_zipIdx inside) (index + 1)
  have all := mapM_eq_some each
  rw [lines] at all
  rw [written?, connections_ofStatements, List.mapM_map]
  exact congrArg (Option.map _) all

theorem ofText_written {name : String} {statements : List Source.Statement}
    (some : statements ≠ [])
    (fits : ∀ s ∈ statements, Reading.FitsLine s.source.path ∧ Reading.FitsLine s.target.path) :
    ∃ found, Source.survey (Reading.printed (statements.map Reading.endsOf)) = .ok found ∧
      found.warnings = [] ∧
      Topology.ofText name classifier
        (.ofList (Reading.printed (statements.map Reading.endsOf))) =
          .ok (ofStatements name classifier statements) := by
  have links : ∀ ends ∈ statements.map Reading.endsOf,
      Reading.FitsLine ends.1 ∧ Reading.FitsLine ends.2 := by
    intro ends member
    obtain ⟨s, inside, rfl⟩ := List.mem_map.mp member
    exact fits s inside
  obtain ⟨same, warnings⟩ := Reading.survey_printed links (by simpa using some)
  have found : (Source.Survey.ofText
      (Reading.printed (statements.map Reading.endsOf))).statements ≠ [] := by
    intro none
    rw [none] at same
    exact some (List.map_eq_nil_iff.mp same.symm)
  refine ⟨_, Reading.survey_eq_ok_iff.mpr ⟨rfl, found⟩, warnings, ?_⟩
  rw [ofText_eq_ok_iff, String.toList_ofList]
  exact ⟨found, (ofStatements_congr same name).symm⟩

/-! ## The statement -/

/-- A topology that was read from a text can be written down, the new text gives no warning, and
what is read from it is the same topology. -/
theorem reading_undoes_writing {name text : String} {t : Topology}
    (parsed : Topology.ofText name classifier text = .ok t) :
    ∃ again found, written? t = some again ∧ Source.survey again.toList = .ok found ∧
      found.warnings = [] ∧ Topology.ofText name classifier again = .ok t := by
  obtain ⟨some, rfl⟩ := ofText_eq_ok_iff.mp parsed
  have fits : ∀ s ∈ (Source.Survey.ofText text.toList).statements,
      Reading.FitsLine s.source.path ∧ Reading.FitsLine s.target.path :=
    fun s member => Reading.fitsLine_of_mem_statements member
  obtain ⟨found, usable, warnings, same⟩ := ofText_written some fits
  refine ⟨_, found, written?_ofStatements name _, ?_, warnings, same⟩
  rw [String.toList_ofList]
  exact usable

/-- A statement between other things, with a literal, a blank and a carriage return in its names. -/
def untidy : String :=
  "连接\r\n】【a 的】【1】的【连接】【x\ry】连接【a 的】【1】的【连接】【z】【\r\n\n"

def tidied : String := "【a 的】【1】的【连接】【x\ry】连接【a 的】【1】的【连接】【z】"

theorem tidied_of_untidy :
    ∃ t, Topology.ofText "net" {} untidy = .ok t ∧ written? t = some tidied ∧
      ∃ again found, written? t = some again ∧ Source.survey again.toList = .ok found ∧
        found.warnings = [] ∧ Topology.ofText "net" {} again = .ok t := by
  have text : (Topology.ofText "net" {} untidy).toOption.map written? = some (some tidied) := by
    decide +kernel
  cases parsed : Topology.ofText "net" {} untidy with
  | error e =>
      rw [parsed] at text
      cases text
  | ok t =>
      rw [parsed] at text
      exact ⟨t, rfl, Option.some.inj text, reading_undoes_writing parsed⟩

end NetDiagram.Proofs.Grouping
