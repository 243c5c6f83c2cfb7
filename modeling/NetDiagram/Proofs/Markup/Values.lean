import NetDiagram.Document.Cells
import NetDiagram.Proofs.Markup.Writing
import NetDiagram.Proofs.Naming.Decoding

/-!
# Values that are written as they are

Apart from names and descriptions, all that the attributes of a draw.io document hold are numbers,
colours, styles and the names of cells. None of these has a character with a meaning in markup, so
escaping them changes nothing.

* `escape_of_isPlainText`: escaping a text without such characters changes nothing.
* `isPlainText_coordinate`, `isPlainText_text`, `isPlainText_style`: the texts that have none.
-/

namespace NetDiagram.Proofs.Markup
open Cells

/-! ## Plain texts -/

def IsPlainText (s : String) : Prop := ∀ c ∈ s.toList, IsPlain c

instance : DecidablePred IsPlain := fun c => inferInstanceAs (Decidable (c ∉ entities.map (·.1)))

theorem all_isPlain_iff {cs : List Char} : cs.all (IsPlain ·) = true ↔ ∀ c ∈ cs, IsPlain c := by
  simp only [List.all_eq_true, decide_eq_true_eq]

instance : DecidablePred IsPlainText := fun _ => decidable_of_iff _ all_isPlain_iff

theorem escape_of_isPlainText {s : String} (plain : IsPlainText s) : Xml.escape s = s :=
  Naming.ofList_flatMap_eq_self fun c member => escapeChar_of_isPlain (plain c member)

/-- A literal is plain if its characters are. -/
theorem isPlainText_ofList {cs : List Char} (plain : cs.all (IsPlain ·) = true) :
    IsPlainText (.ofList cs) := by
  rwa [IsPlainText, String.toList_ofList, ← all_isPlain_iff]

theorem IsPlainText.append {s s' : String} (plain : IsPlainText s) (plain' : IsPlainText s') :
    IsPlainText (s ++ s') := by
  intro c member
  rw [String.toList_append] at member
  exact (List.mem_append.mp member).elim (plain c) (plain' c)

theorem isPlain_of_isDigit {c : Char} (digit : c.isDigit = true) : IsPlain c := by
  have others : ∀ entity ∈ entities, entity.1.isDigit = false := by decide
  intro special
  obtain ⟨entity, known, rfl⟩ := List.mem_map.mp special
  rw [others entity known] at digit
  cases digit

theorem isPlain_of_mem_toDigits {n : Nat} {c : Char} (member : c ∈ Nat.toDigits 10 n) :
    IsPlain c :=
  isPlain_of_isDigit (Nat.isDigit_of_mem_toDigits (by decide) (by decide) member)

theorem isPlainText_toString (n : Nat) : IsPlainText (toString n) := by
  intro c member
  simp at member
  exact isPlain_of_mem_toDigits member

/-! ## Numbers -/

theorem forall_mem_positionalText {p : Char → Prop} {digits : List Char} (all : ∀ c ∈ digits, p c)
    (zero : p '0') (point : p '.') (hasFraction : Bool) (leading : Int) :
    ∀ c ∈ Decimal.positionalText hasFraction digits leading, p c := by
  have zeros (n : Nat) : ∀ c ∈ Decimal.zeros n, p c := by
    intro c member
    rw [List.eq_of_mem_replicate member]
    exact zero
  have front (n : Nat) : ∀ c ∈ digits.take n, p c := fun c member =>
    all c (List.mem_of_mem_take member)
  simp only [Decimal.positionalText]
  split
  · rw [List.forall_mem_cons, List.forall_mem_cons, List.forall_mem_append]
    exact ⟨zero, point, zeros _, all⟩
  · split
    · cases hasFraction with
      | false =>
          rw [if_neg Bool.false_ne_true, List.forall_mem_append]
          exact ⟨front _, zeros _⟩
      | true =>
          rw [if_pos rfl, List.forall_mem_append, List.forall_mem_append, List.forall_mem_cons,
            List.forall_mem_singleton]
          exact ⟨⟨front _, zeros _⟩, point, zero⟩
    · rw [List.forall_mem_append, List.forall_mem_append, List.forall_mem_cons]
      exact ⟨⟨front _, zeros _⟩, point, fun c member => all c (List.mem_of_mem_drop member)⟩

theorem mem_of_mem_significant {digits : List Char} {c : Char}
    (member : c ∈ Decimal.significant digits) : c ∈ digits := by
  rw [Decimal.significant, List.mem_reverse] at member
  exact List.mem_reverse.mp ((List.dropWhile_sublist _).subset member)

theorem isPlain_of_mem_text {d : Decimal.Numeral} {c : Char} (member : c ∈ d.text .plain) :
    IsPlain c := by
  refine forall_mem_positionalText (fun c member => ?_) (by decide) (by decide) _ _ c member
  exact isPlain_of_mem_toDigits (mem_of_mem_significant member)

theorem isPlainText_signed {text : List Char} (plain : ∀ c ∈ text, IsPlain c) (negative : Bool) :
    IsPlainText (.ofList (if negative then '-' :: text else text)) := by
  rw [IsPlainText, String.toList_ofList]
  cases negative with
  | false => exact plain
  | true => exact List.forall_mem_cons.mpr ⟨by decide, plain⟩

@[simp]
theorem isPlainText_coordinate (x : Float32) : IsPlainText (coordinate x) := by
  rw [coordinate, Decimal.text32, Decimal.Unpacked.text]
  cases (Decimal.unpack32 x).magnitude with
  | notANumber => exact (by decide : IsPlainText "NaN")
  | infinite =>
      cases (Decimal.unpack32 x).negative with
      | false => exact (by decide : IsPlainText "inf")
      | true => exact (by decide : IsPlainText "-inf")
  | zero => exact isPlainText_signed (List.forall_mem_singleton.mpr (by decide)) _
  | finite value => exact isPlainText_signed (fun c member => isPlain_of_mem_text member) _

/-! ## Names of cells and styles -/

@[simp]
theorem isPlainText_text (id : CellId) : IsPlainText id.text := by
  cases id with
  | root | layer | placeholder => exact (by decide)
  | environment n | datacenter n | area n | component n | edge n =>
      exact IsPlainText.append (by decide) (isPlainText_toString n)

theorem isPlainText_groupStyle {fill : String} (plain : IsPlainText fill) :
    IsPlainText (Figure.groupStyle fill) :=
  .append (.append (isPlainText_ofList (by decide)) plain) (isPlainText_ofList (by decide))

theorem isPlainText_componentStyle {look : Appearance} (stroke : IsPlainText look.stroke)
    (font : IsPlainText look.font) : IsPlainText (Figure.componentStyle look) := by
  have weight : IsPlainText (if look.isBold then "1" else "0") := by split <;> decide
  unfold Figure.componentStyle
  refine .append (.append (.append (.append (.append (.append (.append (.append ?_ stroke) ?_)
    (isPlainText_toString _)) ?_) font) ?_) weight) ?_
  all_goals exact isPlainText_ofList (by decide)

@[simp]
theorem isPlainText_style (f : Figure) : IsPlainText f.style := by
  cases f with
  | environment name => exact isPlainText_groupStyle (isPlainText_ofList (by decide))
  | datacenter name => exact isPlainText_groupStyle (isPlainText_ofList (by decide))
  | area name => exact isPlainText_groupStyle (isPlainText_ofList (by decide))
  | component c =>
      apply isPlainText_componentStyle <;> cases c.kind <;> decide

theorem isPlainText_edgeStyle : IsPlainText edgeStyle :=
  .append (isPlainText_ofList (by decide)) (isPlainText_ofList (by decide))

theorem isPlainText_placeholderStyle : IsPlainText placeholderStyle :=
  .append (isPlainText_ofList (by decide)) (isPlainText_ofList (by decide))

end NetDiagram.Proofs.Markup
