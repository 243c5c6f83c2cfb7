import NetDiagram.Document.SceneJson
import NetDiagram.Proofs.Markup.Values
import NetDiagram.Proofs.Notation.Writing

/-!
# The documents of scenes

All numbers in the document of a scene are written with digits, signs, points and exponents, so the
document can be read.

* `isNumeral_text32`: the numbers that JSON can write.
* `isWritable_documentJson`: the document of a scene.
-/

namespace NetDiagram.Proofs.Notation
open Decimal Scene

/-! ## Numbers -/

theorem isNumeric_of_mem_toDigits {n : Nat} {c : Char} (member : c ∈ Nat.toDigits 10 n) :
    isNumeric c = true := by
  rw [isNumeric, Nat.isDigit_of_mem_toDigits (by decide) (by decide) member, Bool.true_or]

theorem isNumeral_toString (n : Nat) : IsNumeral (toString n) := by
  have digits : (toString n).toList = Nat.toDigits 10 n := by simp
  rw [IsNumeral, digits]
  exact ⟨Nat.toDigits_ne_nil, fun c member => isNumeric_of_mem_toDigits member⟩

theorem isNumeric_of_mem_positionalText {digits : List Char}
    (all : ∀ c ∈ digits, isNumeric c = true) (hasFraction : Bool) (leading : Int) :
    ∀ c ∈ positionalText hasFraction digits leading, isNumeric c = true :=
  Markup.forall_mem_positionalText all (by decide) (by decide) hasFraction leading

theorem isNumeric_of_mem_exponentText {digits : List Char} (all : ∀ c ∈ digits, isNumeric c = true)
    (leading : Int) : ∀ c ∈ exponentText digits leading, isNumeric c = true := by
  have exponent : ∀ c ∈ Nat.toDigits 10 leading.natAbs, isNumeric c = true :=
    fun c member => isNumeric_of_mem_toDigits member
  have sign : isNumeric (if leading < 0 then '-' else '+') = true := by split <;> decide
  simp only [exponentText, List.forall_mem_append, List.forall_mem_cons]
  refine ⟨?_, by decide, sign, exponent⟩
  split
  · exact List.forall_mem_singleton.mpr (by decide)
  · exact all
  · rw [List.forall_mem_cons] at all
    rw [List.forall_mem_cons, List.forall_mem_cons]
    exact ⟨all.1, by decide, all.2⟩

theorem isNumeric_of_mem_text (d : Numeral) : ∀ c ∈ d.text .json, isNumeric c = true := by
  have digits : ∀ c ∈ significant (Nat.toDigits 10 d.digits), isNumeric c = true :=
    fun c member => isNumeric_of_mem_toDigits (Markup.mem_of_mem_significant member)
  simp only [Numeral.text, Style.json]
  split
  · exact isNumeric_of_mem_positionalText digits _ _
  · exact isNumeric_of_mem_exponentText digits _

theorem text_ne_nil (d : Numeral) : d.text .json ≠ [] := by
  simp only [Numeral.text, Style.json, positionalText, exponentText]
  split
  · split
    · exact List.cons_ne_nil _ _
    · split <;> simp
  · simp

theorem isNumeral_signed {text : List Char} (some : text ≠ [])
    (numeric : ∀ c ∈ text, isNumeric c = true) (negative : Bool) :
    IsNumeral (.ofList (if negative then '-' :: text else text)) := by
  rw [IsNumeral, String.toList_ofList]
  cases negative with
  | false => exact ⟨some, numeric⟩
  | true => exact ⟨List.cons_ne_nil _ _, List.forall_mem_cons.mpr ⟨by decide, numeric⟩⟩

theorem isWritable_coordinate (x : Float32) : IsWritable (coordinate x) := by
  rw [coordinate]
  cases value : (unpack32 x).magnitude with
  | notANumber | infinite => exact .null
  | zero =>
      refine .number ?_
      rw [text32, Unpacked.text, value]
      exact isNumeral_signed (List.cons_ne_nil _ _) (by simp [isNumeric]) _
  | finite value' =>
      refine .number ?_
      rw [text32, Unpacked.text, value]
      exact isNumeral_signed (text_ne_nil _) (isNumeric_of_mem_text _) _

/-! ## Elements -/

theorem isWritable_nat (n : Nat) : IsWritable (.nat n) := .number (isNumeral_toString n)

theorem isWritable_binding (id : Option ElementId) :
    IsWritable (.ofOption bindingJson id) := by
  cases id with
  | none => exact .null
  | some id =>
      refine .object ?_
      simp [IsWritable.string, isWritable_coordinate]

theorem isWritable_fields (shape : Shape Float32) :
    ∀ field ∈ shape.fields, IsWritable field.2 := by
  have roundness (kind : Nat) : IsWritable (roundness kind) := by
    refine .object ?_
    simp [isWritable_nat]
  cases shape with
  | rectangle => simpa [Shape.fields] using roundness 3
  | text content container =>
      have name : IsWritable (.ofOption (fun id => .string id.written) container) := by
        cases container with
        | none => exact .null
        | some id => exact .string
      simp [Shape.fields, IsWritable.string, isWritable_nat, isWritable_coordinate, name]
  | arrow start stop way =>
      have point (x y : Float32) : IsWritable (.list [coordinate x, coordinate y]) := by
        refine .list ?_
        simp [isWritable_coordinate]
      have points : IsWritable (.list [.list [coordinate 0, coordinate 0],
          .list [coordinate way.x, coordinate way.y]]) := by
        refine .list ?_
        simp [point]
      simp [Shape.fields, IsWritable.string, IsWritable.null, isWritable_binding, roundness, points]

theorem isWritable_json (e : Element Float32) : IsWritable e.json := by
  have bound : IsWritable (.list (e.bound.map boundJson)) := by
    refine .list (List.forall_mem_map.mpr fun id _ => .object ?_)
    simp [IsWritable.string]
  have empty : IsWritable (.list []) := .list (List.forall_mem_nil _)
  refine .object ?_
  simp only [List.forall_mem_append, List.forall_mem_cons]
  refine ⟨⟨?_, isWritable_fields e.shape⟩, ?_⟩
  all_goals simp [IsWritable.string, IsWritable.bool, IsWritable.null, isWritable_nat,
    isWritable_coordinate, bound, empty]

theorem isWritable_documentJson (background : String) (es : List (Element Float32)) :
    IsWritable (documentJson background es) := by
  have elements : IsWritable (.list (es.map (·.json))) :=
    .list (List.forall_mem_map.mpr fun e _ => isWritable_json e)
  have zoom : IsWritable (.object [("value", coordinate 1)]) := by
    refine .object ?_
    simp [isWritable_coordinate]
  have files : IsWritable (.object []) := .object (List.forall_mem_nil _)
  refine .object ?_
  simp only [List.forall_mem_cons]
  refine ⟨.string, isWritable_nat 2, .string, elements, .object ?_, files, List.forall_mem_nil _⟩
  simp [IsWritable.string, IsWritable.bool, isWritable_nat, isWritable_coordinate, zoom]

theorem isJson_documentJson_iff (background : String) (es : List (Element Float32))
    (document : Json) : IsJson (documentJson background es).pretty document ↔
      document = documentJson background es :=
  isJson_pretty_iff (isWritable_documentJson background es)

end NetDiagram.Proofs.Notation
