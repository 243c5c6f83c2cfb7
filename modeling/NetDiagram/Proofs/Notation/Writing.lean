import NetDiagram.Proofs.Notation.Grammar

/-!
# What is written can be read

Every value whose numbers look like numbers is written so that the grammar reads it, and then it
reads the same value.

* `IsWritable`: what is asked of a value.
* `isJson_pretty`: the text of a value is a document.
* `isJson_pretty_iff`: and it is the document of no other value.
-/

namespace NetDiagram.Proofs.Notation
open Json

/-! ## Strings -/

theorem inside?_plain {c : Char} (quote : c ≠ '"') (backslash : c ≠ '\\')
    (printable : ¬c.toNat < 0x20) (cs : List Char) :
    inside? (c :: cs) = (inside? cs).map fun (value, rest) => (c :: value, rest) := by
  rw [inside?, if_neg printable]
  all_goals simp [quote, backslash]

theorem inside?_code {c : Char} (control : c.toNat < 0x20) (cs : List Char) :
    inside? ('\\' :: 'u' :: '0' :: '0' :: Nat.digitChar (c.toNat / 16) ::
      Nat.digitChar (c.toNat % 16) :: cs) =
        (inside? cs).map fun (value, rest) => (c :: value, rest) := by
  have high := Naming.digitValue_digitChar (c.toNat / 16) (by omega)
  have low := Naming.digitValue_digitChar (c.toNat % 16) (by omega)
  rw [inside?, high, low, Nat.div_add_mod, Char.ofNat_toNat]

theorem inside?_short : ∀ pair ∈ shortNames, ∀ cs,
    inside? ('\\' :: pair.1 :: cs) =
      (inside? cs).map fun (value, rest) => (pair.2 :: value, rest) := by
  simp [shortNames, inside?, List.lookup_cons]

theorem escapeChar_of_short : ∀ pair ∈ shortNames, escapeChar pair.2 = ['\\', pair.1] := by
  decide

theorem inside?_escapeChar (c : Char) (cs : List Char) :
    inside? (escapeChar c ++ cs) = (inside? cs).map fun (value, rest) => (c :: value, rest) := by
  by_cases short : c ∈ shortNames.map (·.2)
  · obtain ⟨pair, known, rfl⟩ := List.mem_map.mp short
    rw [escapeChar_of_short pair known]
    exact inside?_short pair known cs
  · simp only [shortNames, List.map_cons, List.map_nil, List.mem_cons, List.not_mem_nil, or_false,
      not_or] at short
    obtain ⟨quote, backslash, lineFeed, carriage, tab, backspace, formFeed⟩ := short
    rw [escapeChar, if_neg quote, if_neg backslash, if_neg lineFeed, if_neg carriage, if_neg tab,
      if_neg backspace, if_neg formFeed]
    split
    · rename_i control
      exact inside?_code control cs
    · rename_i printable
      exact inside?_plain quote backslash printable cs

theorem inside?_escape (value rest : List Char) :
    inside? (value.flatMap escapeChar ++ '"' :: rest) = some (value, rest) := by
  induction value with
  | nil => simp [inside?]
  | cons c cs ih => rw [List.flatMap_cons, List.append_assoc, inside?_escapeChar, ih, Option.map_some]

/-! ## Tokens -/

section Tokens

variable {i : List Char} {ts : List Token} (later : Tokens i ts)
include later

theorem tokens_blank : Tokens (' ' :: i) ts := .blank rfl later

theorem tokens_lineFeed : Tokens ('\n' :: i) ts := .blank rfl later

theorem tokens_indentation (depth : Nat) : Tokens ((indentation depth).toList ++ i) ts := by
  rw [indentation, String.toList_ofList]
  induction 2 * depth with
  | zero => exact later
  | succ n ih => exact tokens_blank ih

theorem tokens_sign : ∀ c ∈ signs, Tokens (c :: i) (.sign c :: ts) := by
  simp only [signs, List.forall_mem_cons]
  exact ⟨.token rfl later, .token rfl later, .token rfl later, .token rfl later, .token rfl later,
    .token rfl later, List.forall_mem_nil _⟩

theorem tokens_string (value : String) :
    Tokens ((quote value).toList ++ i) (.string value :: ts) := by
  have read : next? ('"' :: (value.toList.flatMap escapeChar ++ '"' :: i)) =
      some (some (.string value), i) := by
    simp [next?, inside?_escape]
  simpa [quote] using Tokens.token read later

end Tokens

/-- Nothing at the front of a text could still belong to a number. -/
def Stops (cs : List Char) : Prop := ∀ c ∈ cs.head?, isNumeric c = false

theorem next?_numeric {c : Char} (numeric : isNumeric c = true) (cs : List Char) :
    next? (c :: cs) = some (some (.number (.ofList ((c :: cs).takeWhile isNumeric))),
      (c :: cs).dropWhile isNumeric) := by
  have foreign : ∀ d ∈ ['n', 't', 'f', '"', ' ', '\n'] ++ signs, isNumeric d = false := by
    simp [signs, isNumeric]
  have other : c ∉ ['n', 't', 'f', '"', ' ', '\n'] ++ signs := fun member =>
    Bool.false_ne_true ((foreign c member).symm.trans numeric)
  simp only [List.cons_append, List.mem_cons, List.nil_append, not_or] at other
  obtain ⟨n, t, f, quote, blank, lineFeed, sign⟩ := other
  rw [next?, if_neg (not_or.mpr ⟨blank, lineFeed⟩), if_neg sign, if_pos numeric]
  all_goals simp_all

theorem takeWhile_numeric {cs rest : List Char} (numeric : ∀ c ∈ cs, isNumeric c = true)
    (stops : Stops rest) :
    (cs ++ rest).takeWhile isNumeric = cs ∧ (cs ++ rest).dropWhile isNumeric = rest := by
  rw [List.takeWhile_append_of_pos numeric, List.dropWhile_append_of_pos numeric]
  cases rest with
  | nil => simp
  | cons c rest => simp [stops c rfl]

def IsNumeral (text : String) : Prop :=
  text.toList ≠ [] ∧ ∀ c ∈ text.toList, isNumeric c = true

theorem tokens_number {text : String} (numeral : IsNumeral text) {i : List Char} {ts : List Token}
    (stops : Stops i) (later : Tokens i ts) : Tokens (text.toList ++ i) (.number text :: ts) := by
  obtain ⟨some, numeric⟩ := numeral
  obtain ⟨taken, left⟩ := takeWhile_numeric numeric stops
  obtain ⟨c, cs, chars⟩ := List.exists_cons_of_ne_nil some
  have read := next?_numeric (numeric c (chars ▸ List.mem_cons_self)) (cs ++ i)
  rw [← List.cons_append, ← chars, taken, left, String.ofList_toList] at read
  exact .token read later

/-! ## Values -/

/-- The numbers in a value look like numbers. -/
inductive IsWritable : Json → Prop
  | null : IsWritable .null
  | bool {value : Bool} : IsWritable (.bool value)
  | number {text : String} : IsNumeral text → IsWritable (.number text)
  | string {value : String} : IsWritable (.string value)
  | list {items : List Json} : (∀ item ∈ items, IsWritable item) → IsWritable (.list items)
  | object {fields : List (String × Json)} :
      (∀ field ∈ fields, IsWritable field.2) → IsWritable (.object fields)

/-- What follows the first text in a block. -/
def laterText (last : String) (depth : Nat) : List String → List Char
  | [] => '\n' :: ((indentation depth).toList ++ last.toList)
  | text :: texts =>
    ',' :: '\n' :: ((indentation (depth + 1)).toList ++ (text.toList ++ laterText last depth texts))

theorem stops_laterText (last : String) (depth : Nat) (texts : List String) (i : List Char) :
    Stops (laterText last depth texts ++ i) := by
  cases texts <;> simp [laterText, Stops] <;> decide

theorem toList_block_cons (first last : String) (depth : Nat) (text : String)
    (texts : List String) :
    (block first last depth (text :: texts)).toList =
      first.toList ++ '\n' :: ((indentation (depth + 1)).toList ++
        (text.toList ++ laterText last depth texts)) := by
  have items : (",\n".intercalate ((text :: texts).map (indentation (depth + 1) ++ ·))).toList ++
      '\n' :: ((indentation depth).toList ++ last.toList) =
        (indentation (depth + 1)).toList ++ (text.toList ++ laterText last depth texts) := by
    induction texts generalizing text with
    | nil => simp [laterText]
    | cons next texts ih =>
        rw [List.map_cons, List.map_cons, String.intercalate_cons_cons, ← List.map_cons,
          String.toList_append, List.append_assoc, ih]
        simp [laterText]
  rw [block]
  · simp [← items]
  · exact List.cons_ne_nil _ _

/-! ## Blocks -/

section Blocks

variable {i : List Char} {ts : List Token} (depth : Nat)

theorem tokens_closing (later : Tokens i ts) {last : String} {sign : Char}
    (same : last.toList = [sign]) (known : sign ∈ signs) :
    Tokens (laterText last depth [] ++ i) (.sign sign :: ts) := by
  have read := tokens_lineFeed (tokens_indentation (tokens_sign later sign known) depth)
  simpa [laterText, same] using read

/-- A line in a block: the sign in front of it, and what is written on it. -/
theorem tokens_line {sign : Char} (known : sign ∈ signs) {line : List Char}
    (read : Tokens line ts) :
    Tokens (sign :: '\n' :: ((indentation (depth + 1)).toList ++ line)) (.sign sign :: ts) :=
  tokens_sign (tokens_lineFeed (tokens_indentation read (depth + 1))) sign known

theorem tokens_key (key : String) {value : List Char} (read : Tokens value ts) :
    Tokens ((quote key ++ ": ").toList ++ value) (.string key :: .sign ':' :: ts) := by
  have colon := tokens_sign (tokens_blank read) ':' (by decide)
  simpa using tokens_string colon key

theorem tokens_empty (later : Tokens i ts) {first last : String} {opening closing : Char}
    (same : first.toList = [opening]) (same' : last.toList = [closing]) (known : opening ∈ signs)
    (known' : closing ∈ signs) :
    Tokens ((block first last depth []).toList ++ i) (.sign opening :: .sign closing :: ts) := by
  simpa [block, same, same'] using tokens_sign (tokens_sign later closing known') opening known

end Blocks

mutual

theorem tokens_text {v : Json} (writable : IsWritable v) (depth : Nat) {i : List Char}
    {ts : List Token} (stops : Stops i) (later : Tokens i ts) :
    Tokens ((v.text depth).toList ++ i) (tokensOf v ++ ts) := by
  match v, writable with
  | .null, _ => exact .token (by simp [text, next?]) later
  | .bool true, _ => exact .token (by simp [text, next?]) later
  | .bool false, _ => exact .token (by simp [text, next?]) later
  | .number text, .number numeral => exact tokens_number numeral stops later
  | .string value, _ => exact tokens_string later value
  | .list [], _ =>
      rw [text, itemTexts]
      exact tokens_empty depth later (by simp) (by simp) (by decide) (by decide)
  | .list (item :: items), .list each =>
      obtain ⟨first, others⟩ := List.forall_mem_cons.mp each
      have rest := tokens_laterItems others depth later
      have read := tokens_line depth (by decide : '[' ∈ signs)
        (tokens_text first (depth + 1) (stops_laterText _ _ _ _) rest)
      rw [text, itemTexts, toList_block_cons, tokensOf, itemTokens]
      simpa using read
  | .object [], _ =>
      rw [text, fieldTexts]
      exact tokens_empty depth later (by simp) (by simp) (by decide) (by decide)
  | .object ((key, value) :: fields), .object each =>
      obtain ⟨first, others⟩ := List.forall_mem_cons.mp each
      have rest := tokens_laterFields others depth later
      have read := tokens_line depth (by decide : '{' ∈ signs) (tokens_key key
        (tokens_text first (depth + 1) (stops_laterText _ _ _ _) rest))
      rw [text, fieldTexts, toList_block_cons, tokensOf, fieldTokens]
      simpa using read

theorem tokens_laterItems {items : List Json} (each : ∀ item ∈ items, IsWritable item)
    (depth : Nat) {i : List Char} {ts : List Token} (later : Tokens i ts) :
    Tokens (laterText "]" depth (itemTexts (depth + 1) items) ++ i)
      (laterItemTokens items ++ ts) := by
  match items with
  | [] => exact tokens_closing depth later (by simp) (by decide)
  | item :: items =>
      obtain ⟨first, others⟩ := List.forall_mem_cons.mp each
      have rest := tokens_laterItems others depth later
      have read := tokens_line depth (by decide : ',' ∈ signs)
        (tokens_text first (depth + 1) (stops_laterText _ _ _ _) rest)
      rw [itemTexts, laterText, laterItemTokens]
      simpa using read

theorem tokens_laterFields {fields : List (String × Json)}
    (each : ∀ field ∈ fields, IsWritable field.2)
    (depth : Nat) {i : List Char} {ts : List Token} (later : Tokens i ts) :
    Tokens (laterText "\x7d" depth (fieldTexts (depth + 1) fields) ++ i)
      (laterFieldTokens fields ++ ts) := by
  match fields with
  | [] => exact tokens_closing depth later (by simp) (by decide)
  | (key, value) :: fields =>
      obtain ⟨first, others⟩ := List.forall_mem_cons.mp each
      have rest := tokens_laterFields others depth later
      have read := tokens_line depth (by decide : ',' ∈ signs) (tokens_key key
        (tokens_text first (depth + 1) (stops_laterText _ _ _ _) rest))
      rw [fieldTexts, laterText, laterFieldTokens]
      simpa using read

end

/-! ## Documents -/

theorem isJson_pretty {v : Json} (writable : IsWritable v) : IsJson v.pretty v := by
  have nothing : Stops [] := by
    rintro c ⟨⟩
  have read := tokens_text writable 0 nothing .finish
  rwa [List.append_nil, List.append_nil] at read

/-- The text of a value is the document of this value and of no other. -/
theorem isJson_pretty_iff {v w : Json} (writable : IsWritable v) :
    IsJson v.pretty w ↔ w = v := by
  constructor
  · exact fun read => (isJson_pretty writable).unique read
  · rintro rfl
    exact isJson_pretty writable

end NetDiagram.Proofs.Notation
