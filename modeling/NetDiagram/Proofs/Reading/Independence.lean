import NetDiagram.Proofs.Grouping.FirstAppearance
import NetDiagram.Proofs.Reading.Lines
import NetDiagram.Proofs.Reading.Moving

/-!
# Lines are read on their own

A text can be cut at any line feed. The survey of the whole consists of the surveys of the two
parts, except that all positions in the second part count from the start of the whole. So a line
that is malformed, or a bracket that is never closed, has no effect on any other line.

* `ofText_append`: the lines of a text that is cut.
* `findings_append`: and what they hold.
* `isJoint_of_findings`: what is read off them.
-/

namespace NetDiagram.Proofs.Reading
open Source Text

/-! ## Lines -/

/-- The number of bytes that pieces take up in a text, each with a line feed behind it. -/
def extent : List (List Char) → Nat
  | [] => 0
  | piece :: pieces => byteLength piece + 1 + extent pieces

theorem extent_splitOn (text : List Char) : extent (text.splitOn '\n') = byteLength text + 1 := by
  have joined (piece : List Char) (pieces : List (List Char)) :
      extent (piece :: pieces) = byteLength (['\n'].intercalate (piece :: pieces)) + 1 := by
    induction pieces generalizing piece with
    | nil => simp [extent]
    | cons next pieces ih =>
        have feed : Char.utf8Size '\n' = 1 := rfl
        rw [extent, ih]
        simp [List.intercalate, feed]
        omega
  obtain ⟨piece, pieces, split⟩ := List.exists_cons_of_ne_nil (List.splitOn_ne_nil '\n' text)
  rw [split, joined, ← split, List.intercalate_splitOn]

theorem ofPieces_append (offset : Nat) (pieces more : List (List Char)) :
    Line.ofPieces offset (pieces ++ more) =
      Line.ofPieces offset pieces ++ Line.ofPieces (offset + extent pieces) more := by
  induction pieces generalizing offset with
  | nil => rfl
  | cons piece pieces ih =>
      have next : offset + byteLength piece + 1 + extent pieces =
          offset + extent (piece :: pieces) := by
        rw [extent]
        omega
      rw [List.cons_append, Line.ofPieces, Line.ofPieces, ih, next, List.cons_append]

theorem ofPieces_add (offset n : Nat) (pieces : List (List Char)) :
    Line.ofPieces (offset + n) pieces = (Line.ofPieces offset pieces).map (·.shift n) := by
  induction pieces generalizing offset with
  | nil => rfl
  | cons piece pieces ih =>
      have next : offset + n + byteLength piece + 1 = offset + byteLength piece + 1 + n := by omega
      rw [Line.ofPieces, Line.ofPieces, List.map_cons, next, ih]
      rfl

theorem ofText_append (first second : List Char) :
    Line.ofText (first ++ '\n' :: second) =
      Line.ofText first ++ (Line.ofText second).map (·.shift (byteLength first + 1)) := by
  rw [Line.ofText, List.splitOn_append_cons_self, ofPieces_append, extent_splitOn, ofPieces_add]
  rfl

/-! ## Findings -/

theorem findings_append (first second : List Char) :
    (Survey.ofText (first ++ '\n' :: second)).findings =
      (Survey.ofText first).findings ++ (Survey.ofText second).findings.map fun (l, f) =>
        (l.shift (byteLength first + 1), f.shift (byteLength first + 1)) := by
  simp only [Survey.ofText, ofText_append, List.map_append, List.map_map]
  congr 1
  apply List.map_congr_left
  intro l _
  exact congrArg (Prod.mk _) (ofLine_shift l)

/-- What a line holds depends on its text alone, and where it stands only moves it. -/
theorem ofLine_eq_shift (l : Line) :
    Finding.ofLine l = (Finding.ofLine ⟨0, l.text⟩).shift l.offset := by
  rw [← ofLine_shift, Line.shift, Nat.zero_add]

/-! ## Surveys -/

/-- A survey consists of two surveys, the second one moved by `n` bytes. -/
structure IsJoint (whole first second : Survey) (n : Nat) : Prop where
  statements : whole.statements = first.statements ++ second.statements.map (·.shift n)
  warnings : whole.warnings = first.warnings ++ second.warnings.map (·.shift n)
  /-- The identities of the second part follow unless the first part has them. -/
  identities : whole.identities =
    first.identities ++ second.identities.filter fun id => id ∉ first.identities
  totalLines : whole.totalLines = first.totalLines + second.totalLines
  candidateLines : whole.candidateLines = first.candidateLines + second.candidateLines
  validLines : whole.validLines = first.validLines + second.validLines

section Joint

variable {whole first second : Survey} {n : Nat}

theorem statements_of_findings
    (findings : whole.findings = first.findings ++ second.findings.map fun (l, f) =>
      (l.shift n, f.shift n)) :
    whole.statements = first.statements ++ second.statements.map (·.shift n) := by
  simp only [Survey.statements, findings, List.filterMap_append, List.filterMap_map,
    List.map_filterMap, Function.comp_def, statement?_shift]

theorem identities_of_statements
    (statements : whole.statements = first.statements ++ second.statements.map (·.shift n)) :
    whole.identities =
      first.identities ++ second.identities.filter fun id => id ∉ first.identities := by
  have ends (s : Statement) : (s.shift n).endpoints.map (·.path.identity) =
      s.endpoints.map (·.path.identity) := rfl
  have known (id : Identity) : (id ∈ first.identities) =
      (id ∈ first.endpoints.map (·.path.identity)) := by
    rw [Survey.identities, List.mem_eraseDups]
  simp only [known]
  simp only [Survey.identities, Survey.endpoints, statements, List.flatMap_append, List.map_append,
    List.flatMap_map, List.map_flatMap, ends]
  rw [List.eraseDups_append, List.removeAll, Grouping.eraseDups_filter]
  congr 2
  funext id
  rw [List.elem_eq_mem, decide_not]

theorem isJoint_of_findings
    (findings : whole.findings = first.findings ++ second.findings.map fun (l, f) =>
      (l.shift n, f.shift n)) : IsJoint whole first second n where
  statements := statements_of_findings findings
  warnings := by
    simp only [Survey.warnings, findings, List.flatMap_append, List.flatMap_map, List.map_flatMap,
      warnings_shift]
  identities := identities_of_statements (statements_of_findings findings)
  totalLines := by
    simp only [Survey.totalLines, findings, List.countP_append, List.countP_map,
      Function.comp_def, isText_shift]
  candidateLines := by
    simp only [Survey.candidateLines, findings, List.countP_append, List.countP_map,
      Function.comp_def, isCandidate_shift]
  validLines := by
    simp only [Survey.validLines, statements_of_findings findings, List.length_append,
      List.length_map]

end Joint

/-! ## The statement -/

/-- The survey of a text that is cut at a line feed consists of the surveys of its parts, and what
any line of a text holds is what it holds as a text of its own, moved to its place. -/
theorem lines_read_on_their_own :
    (∀ first second : List Char, IsJoint (Survey.ofText (first ++ '\n' :: second))
      (Survey.ofText first) (Survey.ofText second) (byteLength first + 1)) ∧
    ∀ text : List Char, (Survey.ofText text).findings =
      (Line.ofText text).map fun l => (l, (Finding.ofLine ⟨0, l.text⟩).shift l.offset) := by
  constructor
  · intro first second
    exact isJoint_of_findings (findings_append first second)
  · intro text
    apply List.map_congr_left
    intro l _
    rw [ofLine_eq_shift l]

end NetDiagram.Proofs.Reading
