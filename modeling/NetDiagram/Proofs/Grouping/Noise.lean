import Mathlib.Logic.Relation
import NetDiagram.Proofs.Grouping.Connections
import NetDiagram.Proofs.Reading.Independence

/-!
# Noise around statements

A topology depends on what its text says and not on what else the text holds: lines without a
statement can be put anywhere, lines can end with a carriage return or without, and the last one
can end with a line feed or not. All positions in the text may change by this, but the paths that
the statements name do not.

* `IsEdit`: what can be done to a text.
* `linksOf_append`, `linksOf_carriage`, `linksOf_of_isNoise`: the paths in the parts of a text.
* `linksOf_eq_of_edited`: any number of edits.
-/

namespace NetDiagram.Proofs.Grouping
open NetDiagram.Topology
open Reading (HoldsForm endsOf)
open Source (Line Survey)

/-! ## Edits -/

/-- A text of which no line has a part in the form of a statement. -/
def IsNoise (noise : List Char) : Prop := ∀ line ∈ noise.splitOn '\n', ¬HoldsForm line

instance (noise : List Char) : Decidable (IsNoise noise) :=
  inferInstanceAs (Decidable (∀ line ∈ noise.splitOn '\n', ¬HoldsForm line))

/-- One text is made from another one by adding noise or by changing the end of a line. -/
inductive IsEdit : List Char → List Char → Prop
  | before {noise text : List Char} (free : IsNoise noise) : IsEdit text (noise ++ '\n' :: text)
  | between {front noise back : List Char} (free : IsNoise noise) :
      IsEdit (front ++ '\n' :: back) (front ++ '\n' :: (noise ++ '\n' :: back))
  | behind {noise text : List Char} (free : IsNoise noise) : IsEdit text (text ++ '\n' :: noise)
  /-- A line that ends with a line feed is given a carriage return before it. -/
  | lineEnd {front back : List Char} :
      IsEdit (front ++ '\n' :: back) (front ++ '\r' :: '\n' :: back)
  | lastEnd {text : List Char} : IsEdit text (text ++ ['\n'])

/-! ## Lines -/

theorem trimEnd_carriage (line : List Char) :
    Text.trimEnd (· == '\r') (line ++ ['\r']) = Text.trimEnd (· == '\r') line := by
  rw [Text.trimEnd, List.reverse_concat, List.dropWhile_cons_of_pos rfl, Text.trimEnd]

theorem lines_carriage_of_not_mem {line : List Char} (single : '\n' ∉ line) :
    Line.ofText (line ++ ['\r']) = Line.ofText line := by
  have single' : '\n' ∉ line ++ ['\r'] := by simpa using single
  rw [Line.ofText, Line.ofText, List.splitOn_eq_singleton single, List.splitOn_eq_singleton single']
  simp only [Line.ofPieces, trimEnd_carriage]

theorem exists_last_line {text : List Char} (feed : '\n' ∈ text) :
    ∃ front line, text = front ++ '\n' :: line ∧ '\n' ∉ line := by
  obtain ⟨line, front, whole, single⟩ := List.eq_append_cons_of_mem (List.mem_reverse.mpr feed)
  refine ⟨front.reverse, line.reverse, ?_, by simpa using single⟩
  rw [← List.reverse_reverse text, whole]
  simp

/-- A carriage return at the end of a text is cut off its last line. -/
theorem lines_carriage (text : List Char) : Line.ofText (text ++ ['\r']) = Line.ofText text := by
  by_cases feed : '\n' ∈ text
  · obtain ⟨front, line, rfl, single⟩ := exists_last_line feed
    rw [List.append_assoc, List.cons_append, Reading.ofText_append, Reading.ofText_append,
      lines_carriage_of_not_mem single]
  · exact lines_carriage_of_not_mem feed

theorem holdsForm_append {line : List Char} (holds : HoldsForm line) (more : List Char) :
    HoldsForm (line ++ more) := by
  obtain ⟨before, source, target, first, second, after, rfl⟩ := holds
  exact ⟨before, source, target, first, second, after ++ more, by simp⟩

theorem IsNoise.not_holdsForm {noise : List Char} (free : IsNoise noise) {l : Line}
    (member : l ∈ Line.ofText noise) : ¬HoldsForm l.text := by
  obtain ⟨piece, inside, more, whole⟩ := Reading.exists_piece member
  intro holds
  exact free piece inside (whole ▸ holdsForm_append holds more)

/-! ## Paths -/

/-- The paths that the statements of a text name, in pairs. -/
def linksOf (text : List Char) : List (Path × Path) := (Survey.ofText text).statements.map endsOf

theorem linksOf_append (first second : List Char) :
    linksOf (first ++ '\n' :: second) = linksOf first ++ linksOf second := by
  rw [linksOf, Reading.statements_of_findings (Reading.findings_append first second),
    List.map_append, List.map_map]
  rfl

theorem linksOf_carriage (text : List Char) : linksOf (text ++ ['\r']) = linksOf text := by
  rw [linksOf, Survey.ofText, lines_carriage]
  rfl

theorem linksOf_of_isNoise {noise : List Char} (free : IsNoise noise) : linksOf noise = [] := by
  rw [linksOf, Reading.statements_ofText, List.map_eq_nil_iff, List.filterMap_eq_nil_iff]
  intro l member
  exact Reading.statement?_ofLine_eq_none.mpr (free.not_holdsForm member)

theorem isNoise_nil : IsNoise [] := by
  intro line member
  rw [List.splitOn_nil, List.mem_singleton] at member
  rintro ⟨before, source, target, -, -, after, whole⟩
  obtain ⟨more, form⟩ := Reading.exists_statementForm_eq_cons source target
  simp [form, member] at whole

theorem linksOf_eq_of_isEdit {text text' : List Char} (edit : IsEdit text text') :
    linksOf text = linksOf text' := by
  cases edit with
  | before free => rw [linksOf_append, linksOf_of_isNoise free, List.nil_append]
  | between free =>
      rw [linksOf_append, linksOf_append, linksOf_append, linksOf_of_isNoise free, List.nil_append]
  | behind free => rw [linksOf_append, linksOf_of_isNoise free, List.append_nil]
  | @lineEnd front back =>
      rw [List.append_cons front '\r', linksOf_append, linksOf_append, linksOf_carriage]
  | lastEnd => rw [linksOf_append, linksOf_of_isNoise isNoise_nil, List.append_nil]

/-- Edits can be made one after another, and undone. -/
theorem linksOf_eq_of_edited {text text' : List Char} (edited : Relation.EqvGen IsEdit text text') :
    linksOf text = linksOf text' := by
  induction edited with
  | rel text text' edit => exact linksOf_eq_of_isEdit edit
  | refl text => rfl
  | symm text text' _ ih => exact ih.symm
  | trans text text' text'' _ _ first second => exact first.trans second

/-! ## The statement -/

/-- A text that can be read still can after any number of edits, and its topology is the same. -/
theorem topology_ignores_noise {classifier : Classifier} {name text text' : String} {t : Topology}
    (edited : Relation.EqvGen IsEdit text.toList text'.toList)
    (parsed : Topology.ofText name classifier text = .ok t) :
    Topology.ofText name classifier text' = .ok t := by
  have same := linksOf_eq_of_edited edited
  obtain ⟨some, rfl⟩ := ofText_eq_ok_iff.mp parsed
  refine ofText_eq_ok_iff.mpr ⟨fun none => ?_, ofStatements_congr same name⟩
  rw [linksOf, linksOf, none, List.map_nil, List.map_eq_nil_iff] at same
  exact some same

/-- Two statements. One of the names ends with a carriage return. -/
def quiet : List Char :=
  Reading.statementForm ⟨"a", "1", "z", "x"⟩ ⟨"a", "1", "z", "y\r"⟩ ++
    '\n' :: Reading.statementForm ⟨"a", "1", "z", "x"⟩ ⟨"b", "1", "z", "x"⟩

/-- The same statements between lines with the connector, a bracket that is never closed, and half
of a statement, with other ends of lines. -/
def noisy : List Char :=
  "连接【a".toList ++ '\n' ::
    (Reading.statementForm ⟨"a", "1", "z", "x"⟩ ⟨"a", "1", "z", "y\r"⟩ ++
      '\r' :: '\n' :: ("\n【a】【1】的【z】【x】连接".toList ++
        '\n' :: (Reading.statementForm ⟨"a", "1", "z", "x"⟩ ⟨"b", "1", "z", "x"⟩ ++ ['\n'])))

/-- Noise before and between two parts of a text, and other ends of lines. -/
theorem edited_everywhere {noise noise' : List Char} (free : IsNoise noise)
    (free' : IsNoise noise') (first second : List Char) :
    Relation.EqvGen IsEdit (first ++ '\n' :: second)
      (noise ++ '\n' :: (first ++ '\r' :: '\n' :: (noise' ++ '\n' :: (second ++ ['\n'])))) := by
  refine .trans _ _ _ (.rel _ _ (.between free')) ?_
  refine .trans _ _ _ (.rel _ _ .lineEnd) ?_
  refine .trans _ _ _ (.rel _ _ .lastEnd) ?_
  refine .trans _ _ _ (.rel _ _ (.before free)) ?_
  simp only [List.append_assoc, List.cons_append]
  exact .refl _

theorem topology_of_noisy :
    ∃ t, Topology.ofText "net" {} (.ofList quiet) = .ok t ∧
      t.connections.map (·.description) = ["x 连接 y\r", "x 连接 x"] ∧
      Relation.EqvGen IsEdit (String.ofList quiet).toList (String.ofList noisy).toList ∧
      Topology.ofText "net" {} (.ofList noisy) = .ok t := by
  have some : (Source.Survey.ofText quiet).statements ≠ [] := by decide +kernel
  have unread : IsNoise "连接【a".toList := by decide +kernel
  have half : IsNoise "\n【a】【1】的【z】【x】连接".toList := by decide +kernel
  have edited :
      Relation.EqvGen IsEdit (String.ofList quiet).toList (String.ofList noisy).toList := by
    rw [String.toList_ofList, String.toList_ofList]
    exact edited_everywhere unread half _ _
  have parsed : Topology.ofText "net" {} (.ofList quiet) = .ok _ := ofText_ofList some
  exact ⟨_, parsed, by decide +kernel, edited, topology_ignores_noise edited parsed⟩

end NetDiagram.Proofs.Grouping
