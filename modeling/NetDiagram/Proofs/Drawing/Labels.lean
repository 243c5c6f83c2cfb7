import NetDiagram.Document.Flowchart

/-!
# What the labels of a flowchart show

A label holds a quotation mark and a bar as codes, and a viewer shows these characters in place of
the codes. Nothing marks the codes that a text has of its own, so they are shown as characters too.

* `displayed_eq_self_iff`: a text that has no code of its own looks as it is.
* `labels_show_texts_without_codes`: a label looks like its text does without being escaped.
* `quote_and_code_look_alike`: a quotation mark and its code are different texts with the same
  label.
-/

namespace NetDiagram.Proofs.Drawing
open Flowchart

/-! ## Showing a label -/

/-- What a viewer shows for a label. -/
def displayed : List Char → List Char
  | '#' :: 'q' :: 'u' :: 'o' :: 't' :: ';' :: cs => '"' :: displayed cs
  | '#' :: '1' :: '2' :: '4' :: ';' :: cs => '|' :: displayed cs
  | c :: cs => c :: displayed cs
  | [] => []

def HoldsCode (cs : List Char) : Prop :=
  "#quot;".toList <:+: cs ∨ "#124;".toList <:+: cs

theorem not_prefix_cons_iff {c d : Char} {word cs : List Char} :
    ¬d :: word <+: c :: cs ↔ ∀ rest, c = d → cs = word ++ rest → False := by
  rw [List.cons_prefix_cons, not_and]
  constructor
  · intro absent rest first others
    exact absent first.symm ⟨rest, others.symm⟩
  · rintro absent first ⟨rest, others⟩
    exact absent rest first.symm others.symm

theorem displayed_cons {c : Char} {cs : List Char} (noQuote : ¬"#quot;".toList <+: c :: cs)
    (noBar : ¬"#124;".toList <+: c :: cs) : displayed (c :: cs) = c :: displayed cs :=
  displayed.eq_3 c cs (not_prefix_cons_iff.mp noQuote) (not_prefix_cons_iff.mp noBar)

theorem displayed_eq_self_iff (cs : List Char) : displayed cs = cs ↔ ¬HoldsCode cs := by
  fun_induction displayed cs
  case case1 cs ih => simp [HoldsCode, List.infix_cons_iff]
  case case2 cs ih => simp [HoldsCode, List.infix_cons_iff]
  case case3 c cs noQuote noBar ih =>
    have quote : ¬"#quot;".toList <+: c :: cs := not_prefix_cons_iff.mpr noQuote
    have bar : ¬"#124;".toList <+: c :: cs := not_prefix_cons_iff.mpr noBar
    rw [List.cons.injEq, and_iff_right rfl, ih, HoldsCode, HoldsCode, List.infix_cons_iff,
      List.infix_cons_iff, or_iff_right quote, or_iff_right bar]
  case case4 => simp [HoldsCode]

/-! ## Escaping a text -/

theorem escapeChar_cases (c : Char) :
    (c = '"' ∧ escapeChar c = "#quot;".toList) ∨ (c = '|' ∧ escapeChar c = "#124;".toList) ∨
      (c ≠ '"' ∧ c ≠ '|' ∧ escapeChar c = [c]) := by
  unfold escapeChar
  split
  · exact .inl ⟨‹_›, rfl⟩
  · split
    · exact .inr (.inl ⟨‹_›, rfl⟩)
    · exact .inr (.inr ⟨‹_›, ‹_›, rfl⟩)

theorem not_mem_escapeChar (c : Char) : '"' ∉ escapeChar c ∧ '|' ∉ escapeChar c := by
  obtain ⟨-, form⟩ | ⟨-, form⟩ | ⟨noQuote, noBar, form⟩ := escapeChar_cases c
  · rw [form]
    decide
  · rw [form]
    decide
  · rw [form, List.mem_singleton, List.mem_singleton]
    exact ⟨noQuote.symm, noBar.symm⟩

theorem not_mem_escaped (cs : List Char) :
    '"' ∉ cs.flatMap escapeChar ∧ '|' ∉ cs.flatMap escapeChar := by
  simp only [List.mem_flatMap, not_exists, not_and]
  exact ⟨fun c _ => (not_mem_escapeChar c).1, fun c _ => (not_mem_escapeChar c).2⟩

theorem not_mem_escapeLabel (s : String) :
    '"' ∉ (escapeLabel s).toList ∧ '|' ∉ (escapeLabel s).toList := by
  rw [escapeLabel, String.toList_ofList]
  exact not_mem_escaped s.toList

/-- Escaping makes no word at the front of a text that no code begins in. -/
theorem prefix_of_prefix_escaped {word cs : List Char} (plain : '#' ∉ word)
    (front : word <+: cs.flatMap escapeChar) : word <+: cs := by
  induction cs generalizing word with
  | nil => exact front
  | cons c cs ih =>
      cases word with
      | nil => exact List.nil_prefix
      | cons d word =>
          obtain ⟨first, others⟩ := List.ne_and_not_mem_of_not_mem_cons plain
          rw [List.flatMap_cons] at front
          obtain ⟨-, form⟩ | ⟨-, form⟩ | ⟨-, -, form⟩ := escapeChar_cases c
          · rw [form] at front
            exact absurd (List.cons_prefix_cons.mp front).1.symm first
          · rw [form] at front
            exact absurd (List.cons_prefix_cons.mp front).1.symm first
          · rw [form] at front
            obtain ⟨same, rest⟩ := List.cons_prefix_cons.mp front
            exact List.cons_prefix_cons.mpr ⟨same, ih others rest⟩

theorem not_prefix_escaped {code : List Char} (plain : '#' ∉ code) {c : Char} {cs : List Char}
    (absent : ¬('#' :: code <+: c :: cs)) : ¬('#' :: code <+: c :: cs.flatMap escapeChar) := by
  intro front
  obtain ⟨first, rest⟩ := List.cons_prefix_cons.mp front
  exact absent (List.cons_prefix_cons.mpr ⟨first, prefix_of_prefix_escaped plain rest⟩)

theorem displayed_escaped (cs : List Char) :
    displayed (cs.flatMap escapeChar) = displayed cs := by
  fun_induction displayed cs
  case case1 cs ih => exact congrArg ('"' :: ·) ih
  case case2 cs ih => exact congrArg ('|' :: ·) ih
  case case3 c cs noQuote noBar ih =>
    rw [List.flatMap_cons, ← ih]
    obtain ⟨rfl, form⟩ | ⟨rfl, form⟩ | ⟨-, -, form⟩ := escapeChar_cases c
    · rfl
    · rfl
    · rw [form]
      exact displayed_cons
        (not_prefix_escaped (by decide) (not_prefix_cons_iff.mpr noQuote))
        (not_prefix_escaped (by decide) (not_prefix_cons_iff.mpr noBar))
  case case4 => rfl

theorem displayed_escapeLabel (s : String) :
    displayed (escapeLabel s).toList = displayed s.toList := by
  rw [escapeLabel, String.toList_ofList, displayed_escaped]

/-! ## Labels and their texts -/

/-- No label ends early. It shows its text exactly if the text has no code of its own, and two
labels look alike exactly if their texts do without being escaped. -/
theorem labels_show_texts_without_codes (s : String) :
    '"' ∉ (escapeLabel s).toList ∧ '|' ∉ (escapeLabel s).toList ∧
      (displayed (escapeLabel s).toList = s.toList ↔ ¬HoldsCode s.toList) ∧
      ∀ other : String, displayed (escapeLabel s).toList = displayed (escapeLabel other).toList ↔
        displayed s.toList = displayed other.toList := by
  refine ⟨(not_mem_escapeLabel s).1, (not_mem_escapeLabel s).2, ?_, fun other => ?_⟩
  · rw [displayed_escapeLabel]
    exact displayed_eq_self_iff s.toList
  · rw [displayed_escapeLabel, displayed_escapeLabel]

/-- The quotation mark that a text shows may be a code that the text has of its own. -/
theorem quote_and_code_look_alike :
    escapeLabel "#quot;" = escapeLabel "\"" ∧ escapeLabel "#124;" = escapeLabel "|" ∧
      ¬∀ s, displayed (escapeLabel s).toList = s.toList := by
  refine ⟨rfl, rfl, fun shown => ?_⟩
  have code := shown "#quot;"
  revert code
  decide

end NetDiagram.Proofs.Drawing
