import NetDiagram.Xml

/-!
# The grammar of draw.io documents

A document is the declaration and one element, and an element is a tag with attributes in quotes,
alone or around other elements. Each rule reads some characters from the left and leaves the rest,
and the next character always tells which rule it is. So a text is the document of one element at
most, and no value of an attribute can be taken for markup.

* `IsDocument`: what the grammar makes of a text.
* `IsDocument.unique`: a text has one reading.
-/

namespace NetDiagram.Proofs.Markup

/-! ## Rules -/

def tags : List String := ["mxfile", "diagram", "mxGraphModel", "root", "mxCell", "mxGeometry"]

/-- The characters with a meaning in markup, with the names that stand for them in values. -/
def entities : List (Char × List Char) :=
  [('&', ['a', 'm', 'p']), ('<', ['l', 't']), ('>', ['g', 't']), ('"', ['q', 'u', 'o', 't']),
    ('\x27', ['#', '3', '9'])]

/-- A character that stands for itself in a value. -/
def IsPlain (c : Char) : Prop := c ∉ entities.map (·.1)

/-- Letters, up to a character that is none. -/
inductive Word : List Char → List Char → List Char → Prop
  | stop {c : Char} {r : List Char} : c.isAlpha = false → Word (c :: r) [] (c :: r)
  | letter {c : Char} {i w r : List Char} : c.isAlpha = true → Word i w r → Word (c :: i) (c :: w) r

/-- A value, up to the quote behind it. -/
inductive Value : List Char → List Char → List Char → Prop
  | stop {r : List Char} : Value ('"' :: r) [] r
  | plain {c : Char} {i v r : List Char} : IsPlain c → Value i v r → Value (c :: i) (c :: v) r
  | entity {c : Char} {name i v r : List Char} : (c, name) ∈ entities → Value i v r →
      Value ('&' :: (name ++ ';' :: i)) (c :: v) r

inductive Attributes : List Char → List (String × String) → List Char → Prop
  | stop {c : Char} {r : List Char} : c ≠ ' ' → Attributes (c :: r) [] (c :: r)
  | pair {i name j value k r : List Char} {as : List (String × String)} :
      name ≠ [] → Word i name ('=' :: '"' :: j) → Value j value k → Attributes k as r →
      Attributes (' ' :: i) ((.ofList name, .ofList value) :: as) r

/-- What stands in a tag: one of the names of elements, and attributes. -/
inductive Tag : List Char → String → List (String × String) → List Char → Prop
  | mk {i name j r : List Char} {as : List (String × String)} :
      Word i name j → .ofList name ∈ tags → Attributes j as r → Tag i (.ofList name) as r

/-- Elements with blanks between them, up to the end of the text or of the element around them. -/
inductive Content : List Char → List Xml.Element → List Char → Prop
  | finish : Content [] [] []
  | close {r : List Char} : Content ('<' :: '/' :: r) [] ('<' :: '/' :: r)
  | blank {c : Char} {i r : List Char} {es : List Xml.Element} :
      c = ' ' ∨ c = '\n' → Content i es r → Content (c :: i) es r
  | empty {i j r : List Char} {tag : String} {as : List (String × String)}
      {es : List Xml.Element} :
      Tag i tag as ('/' :: '>' :: j) → Content j es r →
      Content ('<' :: i) (.mk tag as [] :: es) r
  | block {i j k m r : List Char} {tag : String} {as : List (String × String)}
      {children es : List Xml.Element} :
      Tag i tag as ('>' :: j) → Content j children ('<' :: '/' :: k) →
      Word k tag.toList ('>' :: m) → Content m es r →
      Content ('<' :: i) (.mk tag as children :: es) r

/-- A text is the declaration and then one element. -/
def IsDocument (text : String) (root : Xml.Element) : Prop :=
  ∃ i, text.toList = Xml.declaration.toList ++ i ∧ Content i [root] []

/-! ## Each rule has one reading -/

theorem Word.unique {i w w' r r' : List Char} (first : Word i w r) (second : Word i w' r') :
    w = w' ∧ r = r' := by
  induction first generalizing w' r' with
  | stop other =>
      cases second with
      | stop _ => exact ⟨rfl, rfl⟩
      | letter letter _ => exact absurd letter (by simp [other])
  | letter letter _ ih =>
      cases second with
      | stop other => exact absurd letter (by simp [other])
      | letter _ second =>
          obtain ⟨rfl, rfl⟩ := ih second
          exact ⟨rfl, rfl⟩

theorem not_isPlain_amp : ¬IsPlain '&' := by
  simp [IsPlain, entities]

theorem not_isPlain_quote : ¬IsPlain '"' := by
  simp [IsPlain, entities]

theorem end_not_mem_entity : ∀ entity ∈ entities, ';' ∉ entity.2 := by
  decide

theorem entity_unique : ∀ entity ∈ entities, ∀ entity' ∈ entities, entity.2 = entity'.2 →
    entity.1 = entity'.1 := by
  decide

/-- Where a character occurs for the first time is where a list is split at it. -/
theorem split_unique {c : Char} {before before' after after' : List Char} (fresh : c ∉ before)
    (fresh' : c ∉ before') (same : before ++ c :: after = before' ++ c :: after') :
    before = before' ∧ after = after' := by
  induction before generalizing before' with
  | nil =>
      cases before' with
      | nil => exact ⟨rfl, (List.cons.inj same).2⟩
      | cons d ds => exact absurd ((List.cons.inj same).1 ▸ List.mem_cons_self) fresh'
  | cons d ds ih =>
      cases before' with
      | nil => exact absurd ((List.cons.inj same).1 ▸ List.mem_cons_self) fresh
      | cons d' ds' =>
          obtain ⟨rfl, rest⟩ := List.cons.inj same
          obtain ⟨rfl, rfl⟩ := ih (List.not_mem_of_not_mem_cons fresh)
            (List.not_mem_of_not_mem_cons fresh') rest
          exact ⟨rfl, rfl⟩

theorem Value.unique {i v v' r r' : List Char} (first : Value i v r) (second : Value i v' r') :
    v = v' ∧ r = r' := by
  induction first generalizing v' r' with
  | stop =>
      cases second with
      | stop => exact ⟨rfl, rfl⟩
      | plain plain _ => exact absurd plain not_isPlain_quote
  | plain plain _ ih =>
      cases second with
      | stop => exact absurd plain not_isPlain_quote
      | plain _ second =>
          obtain ⟨rfl, rfl⟩ := ih second
          exact ⟨rfl, rfl⟩
      | entity _ _ => exact absurd plain not_isPlain_amp
  | @entity c name i v r known _ ih =>
      generalize text : name ++ ';' :: i = j at second
      cases second with
      | plain plain _ => exact absurd plain not_isPlain_amp
      | entity known' second =>
          obtain ⟨rfl, rfl⟩ := split_unique (end_not_mem_entity _ known)
            (end_not_mem_entity _ known') text
          obtain ⟨rfl, rfl⟩ := ih second
          cases entity_unique _ known _ known' rfl
          exact ⟨rfl, rfl⟩

theorem Attributes.unique {i r r' : List Char} {as as' : List (String × String)}
    (first : Attributes i as r) (second : Attributes i as' r') : as = as' ∧ r = r' := by
  induction first generalizing as' r' with
  | stop other =>
      cases second with
      | stop _ => exact ⟨rfl, rfl⟩
      | pair _ _ _ _ => exact absurd rfl other
  | pair _ word value _ ih =>
      cases second with
      | stop other => exact absurd rfl other
      | pair _ word' value' second =>
          obtain ⟨rfl, rest⟩ := word.unique word'
          obtain ⟨-, rfl⟩ := List.cons.inj (List.cons.inj rest).2
          obtain ⟨rfl, rfl⟩ := value.unique value'
          obtain ⟨rfl, rfl⟩ := ih second
          exact ⟨rfl, rfl⟩

theorem Tag.unique {i r r' : List Char} {tag tag' : String} {as as' : List (String × String)}
    (first : Tag i tag as r) (second : Tag i tag' as' r') : tag = tag' ∧ as = as' ∧ r = r' := by
  obtain ⟨word, -, attributes⟩ := first
  obtain ⟨word', -, attributes'⟩ := second
  obtain ⟨rfl, rfl⟩ := word.unique word'
  exact ⟨rfl, attributes.unique attributes'⟩

/-- A tag that opens an element cannot be taken for one that closes it. -/
theorem not_tag_slash {i r : List Char} {tag : String} {as : List (String × String)} :
    ¬Tag ('/' :: i) tag as r := by
  rintro ⟨word, known, -⟩
  cases word with
  | stop _ => exact absurd known (by decide)
  | letter letter _ => exact absurd letter (by decide)

theorem not_blank_opening {c : Char} (blank : c = ' ' ∨ c = '\n') : c ≠ '<' := by
  rintro rfl
  exact absurd blank (by decide)

theorem Content.unique {i r r' : List Char} {es es' : List Xml.Element} (first : Content i es r)
    (second : Content i es' r') : es = es' ∧ r = r' := by
  -- The next two characters tell the rule, so the second reading can only follow the first.
  induction first generalizing es' r' with
  | finish =>
      cases second
      exact ⟨rfl, rfl⟩
  | close =>
      cases second with
      | close => exact ⟨rfl, rfl⟩
      | blank blank _ => exact absurd rfl (not_blank_opening blank)
      | empty tag _ => exact absurd tag not_tag_slash
      | block tag _ _ _ => exact absurd tag not_tag_slash
  | blank blank _ ih =>
      cases second with
      | close => exact absurd rfl (not_blank_opening blank)
      | blank _ second => exact ih second
      | empty _ _ => exact absurd rfl (not_blank_opening blank)
      | block _ _ _ _ => exact absurd rfl (not_blank_opening blank)
  | empty tag _ ih =>
      cases second with
      | close => exact absurd tag not_tag_slash
      | blank blank _ => exact absurd rfl (not_blank_opening blank)
      | empty tag' second =>
          obtain ⟨rfl, rfl, rest⟩ := tag.unique tag'
          obtain ⟨-, rfl⟩ := List.cons.inj (List.cons.inj rest).2
          obtain ⟨rfl, rfl⟩ := ih second
          exact ⟨rfl, rfl⟩
      | block tag' _ _ _ =>
          obtain ⟨-, -, rest⟩ := tag.unique tag'
          exact absurd (List.cons.inj rest).1 (by decide)
  | block tag _ word _ inner outer =>
      cases second with
      | close => exact absurd tag not_tag_slash
      | blank blank _ => exact absurd rfl (not_blank_opening blank)
      | empty tag' _ =>
          obtain ⟨-, -, rest⟩ := tag.unique tag'
          exact absurd (List.cons.inj rest).1 (by decide)
      | block tag' children word' second =>
          obtain ⟨rfl, rfl, rest⟩ := tag.unique tag'
          obtain ⟨-, rfl⟩ := List.cons.inj rest
          obtain ⟨rfl, rest⟩ := inner children
          obtain ⟨-, rfl⟩ := List.cons.inj (List.cons.inj rest).2
          obtain ⟨-, rest⟩ := word.unique word'
          obtain ⟨-, rfl⟩ := List.cons.inj rest
          obtain ⟨rfl, rfl⟩ := outer second
          exact ⟨rfl, rfl⟩

theorem IsDocument.unique {text : String} {root root' : Xml.Element}
    (first : IsDocument text root) (second : IsDocument text root') : root = root' := by
  obtain ⟨i, text, content⟩ := first
  obtain ⟨i', text', content'⟩ := second
  obtain rfl := List.append_cancel_left (text.symm.trans text')
  exact (List.cons.inj (content.unique content').1).1

end NetDiagram.Proofs.Markup
