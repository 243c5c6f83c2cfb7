import NetDiagram.Source.Survey

/-!
# Lines of a text

A line is what stands between two line feeds, without the carriage returns at its end.
-/

namespace NetDiagram.Proofs.Reading
open Source Text

theorem not_mem_of_mem_splitOn {c : Char} {text piece : List Char}
    (member : piece ∈ text.splitOn c) : c ∉ piece := by
  induction text generalizing piece with
  | nil =>
      rw [List.splitOn_nil, List.mem_singleton] at member
      simp [member]
  | cons d ds ih =>
      rw [List.splitOn_cons_eq_if_modifyHead] at member
      split at member
      · rcases List.mem_cons.mp member with rfl | member
        · simp
        · exact ih member
      · rename_i different
        cases pieces : ds.splitOn c with
        | nil => simp [pieces] at member
        | cons first more =>
            rw [pieces] at member ih
            rw [List.modifyHead_cons] at member
            rcases List.mem_cons.mp member with rfl | member
            · intro inside
              rcases List.mem_cons.mp inside with rfl | inside
              · exact different (beq_self_eq_true _)
              · exact ih List.mem_cons_self inside
            · exact ih (List.mem_cons_of_mem _ member)

theorem dropWhile_congr {p q : Char → Bool} {cs : List Char} (same : ∀ c ∈ cs, p c = q c) :
    cs.dropWhile p = cs.dropWhile q := by
  induction cs with
  | nil => rfl
  | cons c cs ih =>
      rw [List.forall_mem_cons] at same
      rw [List.dropWhile_cons, List.dropWhile_cons, same.1, ih same.2]

/-- The text of the lines: the pieces between line feeds, without the ends of lines. -/
theorem map_text_ofText (text : List Char) :
    (Line.ofText text).map (·.text) =
      (text.splitOn '\n').map (trimEnd fun c => c == '\r' || c == '\n') := by
  have pieces (offset : Nat) (pieces : List (List Char)) :
      (Line.ofPieces offset pieces).map (·.text) = pieces.map (trimEnd (· == '\r')) := by
    induction pieces generalizing offset with
    | nil => rfl
    | cons piece pieces ih => rw [Line.ofPieces, List.map_cons, List.map_cons, ih]
  rw [Line.ofText, pieces]
  apply List.map_congr_left
  intro piece member
  rw [trimEnd, trimEnd]
  congr 1
  apply dropWhile_congr
  intro c inside
  have : c ≠ '\n' := by
    rintro rfl
    exact not_mem_of_mem_splitOn member (List.mem_reverse.mp inside)
  simp [this]

theorem trimEnd_append (p : Char → Bool) (cs : List Char) :
    trimEnd p cs ++ (cs.reverse.takeWhile p).reverse = cs := by
  rw [trimEnd, ← List.reverse_append, List.takeWhile_append_dropWhile, List.reverse_reverse]

theorem exists_piece {text : List Char} {l : Line} (member : l ∈ Line.ofText text) :
    ∃ piece ∈ text.splitOn '\n', l.text <+: piece := by
  have texts : l.text ∈ (Line.ofText text).map (·.text) := List.mem_map_of_mem member
  rw [map_text_ofText] at texts
  obtain ⟨piece, inside, same⟩ := List.mem_map.mp texts
  exact ⟨piece, inside, _, same ▸ trimEnd_append _ piece⟩

theorem located_ofPieces {pieces : List (List Char)} {front : List Char} {l : Line}
    (member : l ∈ Line.ofPieces (byteLength front) pieces) :
    ∃ before after, front ++ ['\n'].intercalate pieces = before ++ (l.text ++ after) ∧
      l.offset = byteLength before := by
  induction pieces generalizing front with
  | nil => cases member
  | cons piece pieces ih =>
      rw [Line.ofPieces] at member
      have rest : ∃ rest, ['\n'].intercalate (piece :: pieces) = piece ++ rest ∧
          (pieces ≠ [] → rest = '\n' :: ['\n'].intercalate pieces) := by
        cases pieces with
        | nil => exact ⟨[], by simp [List.intercalate], by simp⟩
        | cons next pieces => exact ⟨_, by simp [List.intercalate], fun _ => rfl⟩
      obtain ⟨rest, whole, later⟩ := rest
      rcases List.mem_cons.mp member with rfl | member
      · refine ⟨front, (piece.reverse.takeWhile (· == '\r')).reverse ++ rest, ?_, rfl⟩
        rw [whole, ← List.append_assoc (trimEnd _ _), trimEnd_append]
      · have more : pieces ≠ [] := by
          rintro rfl
          cases member
        have start : byteLength front + byteLength piece + 1 =
            byteLength (front ++ (piece ++ ['\n'])) := by
          rw [byteLength_append, byteLength_append]
          rfl
        rw [start] at member
        obtain ⟨before, after, same, offset⟩ := ih member
        refine ⟨before, after, ?_, offset⟩
        rw [← same, whole, later more]
        simp

theorem located_ofText {text : List Char} {l : Line} (member : l ∈ Line.ofText text) :
    ∃ before after, text = before ++ (l.text ++ after) ∧ l.offset = byteLength before := by
  change l ∈ Line.ofPieces (byteLength []) (text.splitOn '\n') at member
  obtain ⟨before, after, same, offset⟩ := located_ofPieces member
  rw [List.nil_append, List.intercalate_splitOn] at same
  exact ⟨before, after, same, offset⟩

end NetDiagram.Proofs.Reading
