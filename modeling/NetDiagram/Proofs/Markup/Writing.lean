import NetDiagram.Proofs.Markup.Grammar

/-!
# What is written can be read

Every element whose names are those of the grammar is written so that the grammar reads it, and
then it reads the same element, with the same values in its attributes.

* `isDocument_document`: the text of an element is a document.
* `isDocument_document_iff`: and it is the document of no other element.
-/

namespace NetDiagram.Proofs.Markup

/-! ## Values and names -/

theorem escapeChar_of_isPlain {c : Char} (plain : IsPlain c) : Xml.escapeChar c = [c] := by
  simp only [IsPlain, entities, List.map_cons, List.map_nil, List.mem_cons, List.not_mem_nil,
    or_false, not_or] at plain
  obtain ⟨amp, lt, gt, quot, apos⟩ := plain
  rw [Xml.escapeChar, if_neg amp, if_neg lt, if_neg gt, if_neg quot, if_neg apos]

theorem escapeChar_of_entity : ∀ entity ∈ entities,
    Xml.escapeChar entity.1 = '&' :: (entity.2 ++ [';']) := by
  decide

theorem value_escape (v r : List Char) : Value (v.flatMap Xml.escapeChar ++ '"' :: r) v r := by
  induction v with
  | nil => exact .stop
  | cons c v ih =>
      rw [List.flatMap_cons]
      by_cases plain : IsPlain c
      · rw [escapeChar_of_isPlain plain]
        exact .plain plain ih
      · obtain ⟨entity, known, rfl⟩ := List.mem_map.mp (Decidable.not_not.mp plain)
        rw [escapeChar_of_entity entity known]
        simp only [List.cons_append, List.append_assoc, List.nil_append]
        exact .entity known ih

def IsWord (name : String) : Prop := name.toList ≠ [] ∧ name.toList.all Char.isAlpha = true

instance : DecidablePred IsWord := fun name =>
  inferInstanceAs (Decidable (name.toList ≠ [] ∧ name.toList.all Char.isAlpha = true))

theorem word_append {w r : List Char} {c : Char} (letters : w.all Char.isAlpha = true)
    (other : c.isAlpha = false) : Word (w ++ c :: r) w (c :: r) := by
  induction w with
  | nil => exact .stop other
  | cons d w ih =>
      rw [List.all_cons, Bool.and_eq_true] at letters
      obtain ⟨letter, letters⟩ := letters
      exact .letter letter (ih letters)

/-! ## Tags -/

theorem toList_attributeText (a : String × String) (r : List Char) :
    (Xml.attributeText a).toList ++ r =
      ' ' :: (a.1.toList ++ '=' :: '"' :: (a.2.toList.flatMap Xml.escapeChar ++ '"' :: r)) := by
  simp [Xml.attributeText, Xml.escape, String.toList_append]

theorem attributes_append {as : List (String × String)} {c : Char} {r : List Char}
    (words : ∀ a ∈ as, IsWord a.1) (other : c ≠ ' ') :
    Attributes (as.flatMap (fun a => (Xml.attributeText a).toList) ++ c :: r) as (c :: r) := by
  induction as with
  | nil => exact .stop other
  | cons a as ih =>
      obtain ⟨word, words⟩ := List.forall_mem_cons.mp words
      rw [List.flatMap_cons, List.append_assoc, toList_attributeText]
      have pair := Attributes.pair word.1 (word_append word.2 rfl) (value_escape a.2.toList _)
        (ih words)
      rwa [String.ofList_toList, String.ofList_toList] at pair

theorem isWord_of_mem_tags : ∀ tag ∈ tags, IsWord tag := by
  decide

theorem toList_tagText (tag : String) (as : List (String × String)) :
    (Xml.tagText tag as).toList =
      tag.toList ++ as.flatMap (fun a => (Xml.attributeText a).toList) := by
  rw [Xml.tagText, String.toList_append, String.toList_join, List.flatMap_map]

theorem tag_append {tag : String} {as : List (String × String)} {c : Char} {r : List Char}
    (known : tag ∈ tags) (words : ∀ a ∈ as, IsWord a.1) (other : c = '>' ∨ c = '/') :
    Tag ((Xml.tagText tag as).toList ++ c :: r) tag as (c :: r) := by
  have noLetter : c.isAlpha = false := by rcases other with rfl | rfl <;> rfl
  have noBlank : c ≠ ' ' := by rcases other with rfl | rfl <;> decide
  have attributes := attributes_append (r := r) words noBlank
  have word : Word (tag.toList ++ (as.flatMap (fun a => (Xml.attributeText a).toList) ++ c :: r))
      tag.toList (as.flatMap (fun a => (Xml.attributeText a).toList) ++ c :: r) := by
    have letters := (isWord_of_mem_tags tag known).2
    cases as with
    | nil => exact word_append letters noLetter
    | cons a as =>
        rw [List.flatMap_cons, List.append_assoc, toList_attributeText]
        exact word_append letters rfl
  have read := Tag.mk word (by rwa [String.ofList_toList]) attributes
  rwa [String.ofList_toList, ← List.append_assoc, ← toList_tagText] at read

/-! ## Elements -/

inductive Everywhere (p : String → List (String × String) → Prop) : Xml.Element → Prop
  | mk {tag : String} {as : List (String × String)} {children : List Xml.Element} :
      p tag as → (∀ e ∈ children, Everywhere p e) → Everywhere p (.mk tag as children)

theorem Everywhere.mono {p q : String → List (String × String) → Prop} {e : Xml.Element}
    (weaker : ∀ tag as, p tag as → q tag as) (holds : Everywhere p e) : Everywhere q e := by
  induction holds with
  | mk here _ inside => exact .mk (weaker _ _ here) inside

/-- The names in a tag are those of the grammar. -/
def IsWellNamed (tag : String) (as : List (String × String)) : Prop :=
  tag ∈ tags ∧ ∀ a ∈ as, IsWord a.1

def textOf (lines : List String) : List Char := lines.flatMap fun line => line.toList ++ ['\n']

theorem toList_document (root : Xml.Element) :
    (Xml.document root).toList = textOf (Xml.declaration :: root.lines 0) := by
  rw [Xml.document, String.toList_join, List.flatMap_map, textOf]
  simp only [String.toList_append]
  rfl

theorem content_indentation {i r : List Char} {es : List Xml.Element} (depth : Nat)
    (content : Content i es r) : Content ((Xml.indentation depth).toList ++ i) es r := by
  rw [Xml.indentation, String.toList_ofList]
  induction 2 * depth with
  | zero => exact content
  | succ n ih => exact .blank (.inl rfl) ih

theorem textOf_cons (line : String) (lines : List String) :
    textOf (line :: lines) = line.toList ++ '\n' :: textOf lines := by
  rw [textOf, List.flatMap_cons, List.append_assoc]
  rfl

theorem textOf_append (lines lines' : List String) :
    textOf (lines ++ lines') = textOf lines ++ textOf lines' :=
  List.flatMap_append

section Tags

variable {tag : String} {as : List (String × String)} {i r : List Char} {es : List Xml.Element}
  (known : tag ∈ tags) (words : ∀ a ∈ as, IsWord a.1) (content : Content i es r) (depth : Nat)
include known words content

theorem content_empty :
    Content (textOf [Xml.indentation depth ++ "<" ++ Xml.tagText tag as ++ "/>"] ++ i)
      (.mk tag as [] :: es) r := by
  have read := Content.empty (tag_append (r := '>' :: '\n' :: i) known words (.inr rfl))
    (.blank (.inr rfl) content)
  rw [textOf_cons]
  simpa [textOf, String.toList_append] using content_indentation depth read

theorem content_block {lines : List String} {children : List Xml.Element}
    (inner : ∀ j r', Content j [] r' → Content (textOf lines ++ j) children r') :
    Content (textOf ((Xml.indentation depth ++ "<" ++ Xml.tagText tag as ++ ">") ::
      (lines ++ [Xml.indentation depth ++ "</" ++ tag ++ ">"])) ++ i)
      (.mk tag as children :: es) r := by
  have last : Word (tag.toList ++ '>' :: '\n' :: i) tag.toList ('>' :: '\n' :: i) :=
    word_append (isWord_of_mem_tags tag known).2 rfl
  -- What is inside is read up to the closing tag, over the blanks in front of it.
  have closing : Content ((Xml.indentation depth).toList ++ '<' :: '/' :: (tag.toList ++
      '>' :: '\n' :: i)) [] ('<' :: '/' :: (tag.toList ++ '>' :: '\n' :: i)) :=
    content_indentation depth .close
  have read := Content.block
    (tag_append (r := '\n' :: (textOf lines ++ _)) known words (.inl rfl))
    (.blank (.inr rfl) (inner _ _ closing)) last (.blank (.inr rfl) content)
  rw [textOf_cons, textOf_append]
  simpa [textOf, String.toList_append] using content_indentation depth read

end Tags

mutual

theorem content_lines {e : Xml.Element} (named : Everywhere IsWellNamed e) (depth : Nat)
    {i r : List Char} {es : List Xml.Element} (content : Content i es r) :
    Content (textOf (e.lines depth) ++ i) (e :: es) r := by
  obtain ⟨tag, as, children⟩ := e
  obtain ⟨⟨known, words⟩, inner⟩ := named
  match children with
  | [] => exact content_empty known words content depth
  | child :: children =>
      obtain ⟨first, later⟩ := List.forall_mem_cons.mp inner
      rw [Xml.Element.lines]
      refine content_block known words content depth fun j r' inside => ?_
      rw [textOf_append, List.append_assoc]
      exact content_lines first (depth + 1)
        (content_linesOfAll later (depth + 1) inside)

theorem content_linesOfAll {children : List Xml.Element}
    (named : ∀ e ∈ children, Everywhere IsWellNamed e) (depth : Nat) {i r : List Char}
    (content : Content i [] r) :
    Content (textOf (Xml.Element.linesOfAll depth children) ++ i) children r := by
  match children with
  | [] => exact content
  | child :: children =>
      obtain ⟨first, later⟩ := List.forall_mem_cons.mp named
      rw [Xml.Element.linesOfAll, textOf_append, List.append_assoc]
      exact content_lines first depth (content_linesOfAll later depth content)

end

/-! ## Documents -/

theorem isDocument_document {root : Xml.Element} (named : Everywhere IsWellNamed root) :
    IsDocument (Xml.document root) root := by
  have content := content_lines named 0 .finish
  rw [List.append_nil] at content
  refine ⟨'\n' :: textOf (root.lines 0), ?_, .blank (.inr rfl) content⟩
  rw [toList_document, textOf_cons]

/-- The text of an element is the document of this element and of no other. -/
theorem isDocument_document_iff {root root' : Xml.Element}
    (named : Everywhere IsWellNamed root) :
    IsDocument (Xml.document root) root' ↔ root' = root := by
  constructor
  · exact fun read => read.unique (isDocument_document named)
  · rintro rfl
    exact isDocument_document named

end NetDiagram.Proofs.Markup
