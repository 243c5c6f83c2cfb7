import NetDiagram.Proofs.Reading.Leftmost
import NetDiagram.Proofs.Reading.Lines
import NetDiagram.Proofs.Reading.Problems

/-!
# What a survey finds

The statements that a survey finds are those that can be read off the characters alone: cut the
text into lines and take from each line that has one its leftmost part in the form of a statement.
The first look at a line for the connector only saves work, since every statement has it.

* `statement?_ofLine_eq_some`: what the finding about a line says.
* `hold_iff`: what the findings about some lines say.
* `survey_eq_ok_iff`: when a text can be used.
-/

namespace NetDiagram.Proofs.Reading
open Source Text

/-! ## Findings -/

theorem not_blank_of_holdsForm {line : List Char} (h : HoldsForm line) :
    line.all isBlank = false := by
  obtain ⟨before, source, target, -, -, after, rfl⟩ := h
  obtain ⟨more, form⟩ := exists_statementForm_eq_cons source target
  have bracket : isBlank '【' = false := by decide
  simp [form, bracket]

theorem occursIn_of_holdsForm {line : List Char} (h : HoldsForm line) :
    occursIn Token.connector.text line = true := by
  obtain ⟨before, source, target, -, -, after, rfl⟩ := h
  refine occursIn_iff.mpr ⟨before ++ endpointForm source, endpointForm target ++ after, ?_⟩
  simp [statementForm, Token.text]

/-- Passing over a line without the connector loses nothing. -/
theorem statement?_ofLine (l : Line) :
    (Finding.ofLine l).statement? = Statement.find? (placedTokens l.offset l.text) := by
  unfold Finding.ofLine
  split
  · rename_i blank
    rw [find?_placedTokens_eq_none.mpr fun h => by simp [not_blank_of_holdsForm h] at blank]
    rfl
  split
  · rename_i prose
    rw [find?_placedTokens_eq_none.mpr fun h => by simp [occursIn_of_holdsForm h] at prose]
    rfl
  dsimp only
  cases Statement.find? (placedTokens l.offset l.text) <;> rfl

theorem statement?_ofLine_eq_some {l : Line} {s : Statement} :
    (Finding.ofLine l).statement? = some s ↔ IsLeftmost l s := by
  rw [statement?_ofLine, find?_placedTokens_eq_some]

theorem statement?_ofLine_eq_none {l : Line} :
    (Finding.ofLine l).statement? = none ↔ ¬HoldsForm l.text := by
  rw [statement?_ofLine, find?_placedTokens_eq_none]

/-! ## Surveys -/

/-- The statements that can be read off the characters of some lines. -/
inductive Hold : List Line → List Statement → Prop
  | nil : Hold [] []
  | without {l : Line} {ls : List Line} {ss : List Statement} :
      ¬HoldsForm l.text → Hold ls ss → Hold (l :: ls) ss
  | within {l : Line} {ls : List Line} {s : Statement} {ss : List Statement} :
      IsLeftmost l s → Hold ls ss → Hold (l :: ls) (s :: ss)

theorem statements_ofText (text : List Char) :
    (Survey.ofText text).statements =
      (Line.ofText text).filterMap fun l => (Finding.ofLine l).statement? := by
  rw [Survey.statements, Survey.ofText, List.filterMap_map]
  rfl

theorem hold_iff {lines : List Line} {statements : List Statement} :
    Hold lines statements ↔
      lines.filterMap (fun l => (Finding.ofLine l).statement?) = statements := by
  constructor
  · intro h
    induction h with
    | nil => rfl
    | @without l ls ss without _ ih =>
        simp only [List.filterMap_cons, statement?_ofLine_eq_none.mpr without, ih]
    | @within l ls s ss leftmost _ ih =>
        simp only [List.filterMap_cons, statement?_ofLine_eq_some.mpr leftmost, ih]
  · rintro rfl
    induction lines with
    | nil => exact .nil
    | cons l ls ih =>
        cases found : (Finding.ofLine l).statement? with
        | none =>
            simp only [List.filterMap_cons, found]
            exact .without (statement?_ofLine_eq_none.mp found) ih
        | some s =>
            simp only [List.filterMap_cons, found]
            exact .within (statement?_ofLine_eq_some.mp found) ih

/-! ## Texts that can be used -/

theorem statements_ne_nil_iff (text : List Char) :
    (Survey.ofText text).statements ≠ [] ↔ ∃ l ∈ Line.ofText text, HoldsForm l.text := by
  simp only [statements_ofText, ne_eq, List.filterMap_eq_nil_iff, Classical.not_forall,
    holdsForm_iff, ← statement?_ofLine_eq_some, exists_prop, Option.ne_none_iff_exists']

theorem totalLines_ne_zero {s : Survey} (h : s.statements ≠ []) : s.totalLines ≠ 0 := by
  obtain ⟨found, member⟩ := List.exists_mem_of_ne_nil _ h
  obtain ⟨finding, inside, holds⟩ := List.mem_filterMap.mp member
  have : finding.2.isText = true := by
    cases kind : finding.2 <;> simp [kind, Finding.statement?, Finding.isText] at holds ⊢
  exact Nat.ne_of_gt (List.countP_pos_iff.mpr ⟨finding, inside, this⟩)

theorem obstacle?_eq_none_iff {s : Survey} {text : List Char} :
    s.obstacle? text = none ↔ s.statements ≠ [] := by
  by_cases none : s.statements = []
  · rw [Survey.obstacle?]
    split <;> simp [none]
  · simp [Survey.obstacle?, totalLines_ne_zero none, none]

theorem survey_eq_ok_iff {text : List Char} {found : Survey} :
    survey text = .ok found ↔ found = Survey.ofText text ∧ found.statements ≠ [] := by
  rw [survey_eq]
  split
  · rename_i obstacle blocked
    constructor
    · intro h
      cases h
    · rintro ⟨rfl, some⟩
      rw [obstacle?_eq_none_iff.mpr some] at blocked
      cases blocked
  · rename_i free
    constructor
    · rintro ⟨⟩
      exact ⟨rfl, obstacle?_eq_none_iff.mp free⟩
    · rintro ⟨rfl, -⟩
      rfl

/-! ## The statement -/

/-- The lines of a text are its pieces between line feeds, without carriage returns at their ends,
each with its place in the text. The statements of a text are those that can be read off the
characters of its lines, and the text can be used, with just these statements, if and only if there
is one. -/
theorem survey_finds_written_statements (text : List Char) :
    (Line.ofText text).map (·.text) =
        (text.splitOn '\n').map (trimEnd fun c => c == '\r' || c == '\n') ∧
      (∀ l ∈ Line.ofText text, ∃ before after,
        text = before ++ (l.text ++ after) ∧ l.offset = byteLength before) ∧
      (∀ statements, (Survey.ofText text).statements = statements ↔
        Hold (Line.ofText text) statements) ∧
      (survey text = .ok (Survey.ofText text) ↔ ∃ l ∈ Line.ofText text, HoldsForm l.text) ∧
      ((∃ e, survey text = .error e) ↔ ∀ l ∈ Line.ofText text, ¬HoldsForm l.text) := by
  have usable : survey text = .ok (Survey.ofText text) ↔
      ∃ l ∈ Line.ofText text, HoldsForm l.text := by
    rw [survey_eq_ok_iff, ← statements_ne_nil_iff]
    exact and_iff_right rfl
  refine ⟨map_text_ofText text, fun l => located_ofText, fun statements => ?_, usable, ?_⟩
  · rw [hold_iff, statements_ofText]
  · have unusable : (∃ e, survey text = .error e) ↔ ¬survey text = .ok (Survey.ofText text) := by
      cases result : survey text with
      | error e => simp
      | ok found => simp [(survey_eq_ok_iff.mp result).1]
    rw [unusable, usable]
    simp

end NetDiagram.Proofs.Reading
