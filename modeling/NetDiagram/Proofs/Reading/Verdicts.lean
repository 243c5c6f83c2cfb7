import NetDiagram.Proofs.Reading.Extraction
import NetDiagram.Topology.Assembly

/-!
# Verdicts

A check of a text and a reading of it come to the same. A text is valid if and only if it can be
read, and whatever one of them has to say about it, the other says too. The numbers in a verdict are
counts of lines: a line with the connector yields either its statement or one warning about its form.

* `candidateLines_eq`: how the lines of a survey are counted.
* `agrees_ofText`: the verdict about a text next to the outcome of its survey.
-/

namespace NetDiagram.Proofs.Reading
open Source Text

/-! ## Counting lines -/

def isMalformed (d : Diagnostic) : Bool := d.code = some .malformedStatement

@[simp] theorem isMalformed_unterminatedWarning (place : Span) :
    isMalformed (unterminatedWarning place) = false :=
  rfl

@[simp] theorem isMalformed_malformedWarning (reason : Mismatch) :
    isMalformed (malformedWarning reason) = true :=
  rfl

/-- A line with the connector holds a statement, or there is one warning about its form. -/
theorem isCandidate_eq (f : Finding) :
    (if f.isCandidate then 1 else 0) =
      (if f.statement?.isSome then 1 else 0) + f.warnings.countP isMalformed := by
  cases f <;> simp [Finding.isCandidate, Finding.statement?, Finding.warnings]

theorem isMalformed_of_statement {f : Finding} (holds : f.statement?.isSome = true)
    {d : Diagnostic} (member : d ∈ f.warnings) : isMalformed d = false := by
  have whole := isCandidate_eq f
  have none : f.warnings.countP isMalformed = 0 := by
    rw [if_pos holds] at whole
    split at whole <;> omega
  simpa using List.countP_eq_zero.mp none d member

theorem candidateLines_eq (s : Survey) :
    s.candidateLines = s.validLines + s.warnings.countP isMalformed := by
  rw [Survey.candidateLines, Survey.validLines, Survey.statements, Survey.warnings,
    List.length_filterMap_eq_countP]
  induction s.findings with
  | nil => rfl
  | cons finding findings ih =>
      have line := isCandidate_eq finding.2
      simp only [List.countP_cons, List.flatMap_cons, List.countP_append, ih]
      omega

theorem candidateLines_le (s : Survey) : s.candidateLines ≤ s.totalLines := by
  apply List.countP_mono_left
  intro finding _ candidate
  cases kind : finding.2 <;> simp [kind, Finding.isCandidate, Finding.isText] at candidate ⊢

/-- The counts of a survey fit together. -/
structure IsTallied (s : Survey) : Prop where
  candidates : s.candidateLines = s.validLines + s.warnings.countP isMalformed
  valid_le : s.validLines ≤ s.candidateLines
  candidates_le : s.candidateLines ≤ s.totalLines
  exclusive : ∀ finding ∈ s.findings, finding.2.statement?.isSome = true →
    ∀ d ∈ finding.2.warnings, isMalformed d = false

theorem isTallied (s : Survey) : IsTallied s where
  candidates := candidateLines_eq s
  valid_le := by
    rw [candidateLines_eq]
    exact Nat.le_add_right _ _
  candidates_le := candidateLines_le s
  exclusive _ _ holds _ := isMalformed_of_statement holds

/-! ## What stands in the way of a text -/

/-- Nothing but blanks stands in the lines of a text. -/
def isBlankText (text : List Char) : Bool := (Line.ofText text).all (·.text.all isBlank)

theorem isText_ofLine (l : Line) : (Finding.ofLine l).isText = !l.text.all isBlank := by
  unfold Finding.ofLine
  split
  · rename_i blank
    rw [blank]
    rfl
  rename_i text
  rw [Bool.eq_false_iff.mpr text]
  split
  · rfl
  dsimp only
  cases Statement.find? (placedTokens l.offset l.text) <;> rfl

theorem totalLines_eq_zero_iff (text : List Char) :
    (Survey.ofText text).totalLines = 0 ↔ isBlankText text = true := by
  simp [Survey.totalLines, Survey.ofText, List.countP_eq_zero, isBlankText, isText_ofLine]

/-- A text cannot be used for this reason. -/
structure IsObstacle (text : List Char) (d : Diagnostic) : Prop where
  severity : d.severity = .error
  code : d.code = some (if isBlankText text then .emptyInput else .noStatements)

/-! ## Verdicts and surveys -/

/-- What a verdict has to say about a text if a survey of it comes to the given result. -/
def Agrees (text : List Char) (v : Verdict) : Except ParseError Survey → Prop
  | .ok found =>
    found = Survey.ofText text ∧ v.isValid = true ∧ v.errors = [] ∧
      v.warnings = found.warnings ∧ v.totalLines = found.totalLines ∧
      v.validLines = found.validLines
  | .error e =>
    v.isValid = false ∧ ∃ obstacle, IsObstacle text obstacle ∧
      e.diagnostics = obstacle :: (Survey.ofText text).warnings ∧
      (∀ d ∈ (Survey.ofText text).warnings, d.severity = .warning) ∧
      v.errors = [obstacle] ∧
      v.warnings = (Survey.ofText text).warnings ++
        if obstacle.code = some .noStatements then [Verdict.formatHint] else []

theorem severity_of_mem_warnings {s : Survey} {d : Diagnostic} (member : d ∈ s.warnings) :
    d.severity = .warning := by
  have := isError_of_mem_survey member
  cases severity : d.severity with
  | error => simp [Diagnostic.isError, severity] at this
  | warning => rfl

theorem agrees_ofText (text : List Char) : Agrees text (Verdict.ofText text) (survey text) := by
  have counted := totalLines_eq_zero_iff text
  rw [survey_eq, Survey.obstacle?, Verdict.ofText]
  by_cases blank : (Survey.ofText text).totalLines = 0
  · simp only [blank, if_true]
    refine ⟨rfl, emptyInput, ⟨rfl, ?_⟩, rfl, fun d => severity_of_mem_warnings, rfl, ?_⟩
    · rw [if_pos (counted.mp blank)]
      rfl
    · exact (List.append_nil _).symm
  have written : isBlankText text = false := by simpa using mt counted.mpr blank
  by_cases none : (Survey.ofText text).statements = []
  · have count : (Survey.ofText text).validLines = 0 := congrArg List.length none
    simp only [blank, none, count, List.isEmpty_nil, if_true, if_false]
    refine ⟨rfl, noStatements text, ⟨rfl, ?_⟩, rfl, fun d => severity_of_mem_warnings, rfl, rfl⟩
    rw [written]
    rfl
  · have count : (Survey.ofText text).validLines ≠ 0 := by simpa [Survey.validLines] using none
    have some : (Survey.ofText text).statements.isEmpty = false := by simpa using none
    simp only [blank, some, count, if_false, Bool.false_eq_true]
    exact ⟨rfl, rfl, rfl, rfl, rfl, rfl⟩

theorem isValid_iff (text : List Char) :
    (Verdict.ofText text).isValid = true ↔ ∃ found, survey text = .ok found := by
  have agrees := agrees_ofText text
  cases result : survey text with
  | ok found =>
      rw [result] at agrees
      simp [agrees.2.1]
  | error e =>
      rw [result] at agrees
      simp [agrees.1]

theorem ofText_eq_error_iff {name : String} {classifier : Classifier} {text : String}
    {e : ParseError} :
    Topology.ofText name classifier text = .error e ↔ survey text.toList = .error e := by
  unfold Topology.ofText
  cases survey text.toList <;> simp [bind, Except.bind, pure, Except.pure]

theorem isValid_iff_ofText (name : String) (classifier : Classifier) (text : String) :
    (Verdict.ofText text.toList).isValid = true ↔
      ∃ t, Topology.ofText name classifier text = .ok t := by
  rw [isValid_iff]
  unfold Topology.ofText
  cases survey text.toList <;> simp [bind, Except.bind, pure, Except.pure]

/-! ## The statement -/

/-- A check calls a text valid if and only if the text can be read, whatever the name and the
classifier of the topology. If it can, the two give the same warnings and counts. If not, both give
the same error before the warnings, which decides whether there is a hint. And every line with the
connector counts either as valid or as malformed. -/
theorem verdicts_agree_with_readings (text : String) :
    ((Verdict.ofText text.toList).isValid = true ↔ ∃ found, survey text.toList = .ok found) ∧
      (∀ name classifier, ((Verdict.ofText text.toList).isValid = true ↔
          ∃ t, Topology.ofText name classifier text = .ok t) ∧
        ∀ e, Topology.ofText name classifier text = .error e ↔ survey text.toList = .error e) ∧
      Agrees text.toList (Verdict.ofText text.toList) (survey text.toList) ∧
      IsTallied (Survey.ofText text.toList) :=
  ⟨isValid_iff text.toList,
    fun name classifier => ⟨isValid_iff_ofText name classifier text, fun _ => ofText_eq_error_iff⟩,
    agrees_ofText text.toList, isTallied _⟩

end NetDiagram.Proofs.Reading
