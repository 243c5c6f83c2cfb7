import NetDiagram.Source.Survey

/-!
# Problems of a text

What is said about a line is a warning. So the outcome of a survey is decided by its obstacle alone,
and if there is one, it is the only error among the problems and stands before all warnings.

* `conclude_of_warnings`, `conclude_cons_of_error`: how a piece of work ends.
* `survey_eq`: the outcome of a survey in terms of its obstacle.
-/

namespace NetDiagram.Proofs.Reading
open Source Diagnostic

/-! ## The end of a piece of work -/

variable {d : Diagnostic} {ds : List Diagnostic}

theorem partition_of_warnings (warnings : ∀ d ∈ ds, d.isError = false) :
    ds.partition (·.isError) = ([], ds) := by
  rw [List.partition_eq_filter_filter, Prod.mk.injEq, List.filter_eq_nil_iff, List.filter_eq_self]
  constructor
  · intro d member
    simp [warnings d member]
  · intro d member
    simp [warnings d member]

theorem conclude_of_warnings (warnings : ∀ d ∈ ds, d.isError = false) : conclude ds = .ok ds := by
  rw [conclude, partition_of_warnings warnings]
  rfl

theorem conclude_cons_of_error (error : d.isError = true)
    (warnings : ∀ d ∈ ds, d.isError = false) : conclude (d :: ds) = .error ⟨d :: ds⟩ := by
  have parts : (d :: ds).partition (·.isError) = ([d], ds) := by
    have rest := partition_of_warnings warnings
    rw [List.partition_eq_filter_filter] at rest ⊢
    obtain ⟨errors, others⟩ := Prod.mk.inj rest
    rw [List.filter_cons_of_pos error, errors, List.filter_cons_of_neg (by simp [error]), others]
  rw [conclude, parts]
  rfl

/-! ## Errors and warnings of a survey -/

theorem isError_of_mem_warnings {f : Finding} (member : d ∈ f.warnings) : d.isError = false := by
  have unterminated {spans : List Span} (member : d ∈ spans.map unterminatedWarning) :
      d.isError = false := by
    obtain ⟨place, -, rfl⟩ := List.mem_map.mp member
    rfl
  cases f with
  | blank => cases member
  | prose => cases member
  | statement found unclosed => exact unterminated member
  | malformed reason unclosed =>
      rcases List.mem_append.mp member with member | member
      · exact unterminated member
      · rw [List.mem_singleton.mp member]
        rfl

theorem isError_of_mem_survey {s : Survey} (member : d ∈ s.warnings) : d.isError = false := by
  obtain ⟨finding, -, inside⟩ := List.mem_flatMap.mp member
  exact isError_of_mem_warnings inside

theorem isError_of_obstacle? {s : Survey} {text : List Char} (found : s.obstacle? text = some d) :
    d.isError = true := by
  unfold Survey.obstacle? at found
  split at found
  · cases found
    rfl
  split at found
  · cases found
    rfl
  · cases found

theorem survey_eq (text : List Char) :
    survey text = match (Survey.ofText text).obstacle? text with
      | some obstacle => .error ⟨obstacle :: (Survey.ofText text).warnings⟩
      | none => .ok (Survey.ofText text) := by
  have warnings : ∀ d ∈ (Survey.ofText text).warnings, d.isError = false :=
    fun d => isError_of_mem_survey
  unfold survey
  split
  · rename_i obstacle blocked
    have ended := conclude_cons_of_error (isError_of_obstacle? blocked) warnings
    simp only [blocked, Option.toList_some, List.singleton_append, ended]
    rfl
  · rename_i free
    simp only [free, Option.toList_none, List.nil_append, conclude_of_warnings warnings]
    rfl

end NetDiagram.Proofs.Reading
