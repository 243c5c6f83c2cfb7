import NetDiagram.Json
import NetDiagram.Proofs.Naming.Decoding

/-!
# The grammar of JSON documents

A document is a value, with blanks and line feeds between its tokens. The next characters always
tell which token it is, and the next token which form a value has, so a text is the document of one
value at most, and no string can be taken for anything but a string. Of JSON this leaves out the
blanks and the codes that no document here has; a number is any run of the characters of numbers.

* `next?`: the token at the front of a text.
* `tokensOf`: the tokens of a value.
* `IsJson`: what the grammar makes of a text.
* `IsJson.unique`: a text has one reading.
-/

namespace NetDiagram.Proofs.Notation

/-! ## Tokens -/

inductive Token where
  | sign (c : Char)
  | null
  | bool (value : Bool)
  | number (text : String)
  | string (value : String)

def signs : List Char := ['[', ']', '{', '}', ',', ':']

/-- The characters that have short names in strings. -/
def shortNames : List (Char × Char) :=
  [('"', '"'), ('\\', '\\'), ('n', '\n'), ('r', '\r'), ('t', '\t'), ('b', '\x08'), ('f', '\x0c')]

/-- The inside of a string, and what comes after the quote behind it. -/
def inside? : List Char → Option (List Char × List Char)
  | [] => none
  | '"' :: cs => some ([], cs)
  | '\\' :: 'u' :: '0' :: '0' :: high :: low :: cs =>
    let c := Char.ofNat (16 * Naming.digitValue high + Naming.digitValue low)
    (inside? cs).map fun (value, rest) => (c :: value, rest)
  | '\\' :: name :: cs => do
    let c ← shortNames.lookup name
    (inside? cs).map fun (value, rest) => (c :: value, rest)
  | c :: cs =>
    if c.toNat < 0x20 then none else (inside? cs).map fun (value, rest) => (c :: value, rest)

def isNumeric (c : Char) : Bool := c.isDigit || ['-', '+', '.', 'e'].contains c

/-- The token at the front of a text, or nothing for a blank, and the rest. -/
def next? : List Char → Option (Option Token × List Char)
  | 'n' :: 'u' :: 'l' :: 'l' :: cs => some (some .null, cs)
  | 't' :: 'r' :: 'u' :: 'e' :: cs => some (some (.bool true), cs)
  | 'f' :: 'a' :: 'l' :: 's' :: 'e' :: cs => some (some (.bool false), cs)
  | '"' :: cs => (inside? cs).map fun (value, rest) => (some (.string (.ofList value)), rest)
  | c :: cs =>
    if c = ' ' ∨ c = '\n' then some (none, cs)
    else if c ∈ signs then some (some (.sign c), cs)
    else if isNumeric c then
      some (some (.number (.ofList ((c :: cs).takeWhile isNumeric))), (c :: cs).dropWhile isNumeric)
    else none
  | [] => none

/-- A text consists of some tokens. -/
inductive Tokens : List Char → List Token → Prop
  | finish : Tokens [] []
  | blank {cs rest : List Char} {ts : List Token} :
      next? cs = some (none, rest) → Tokens rest ts → Tokens cs ts
  | token {cs rest : List Char} {t : Token} {ts : List Token} :
      next? cs = some (some t, rest) → Tokens rest ts → Tokens cs (t :: ts)

theorem Tokens.unique {cs : List Char} {ts us : List Token} (first : Tokens cs ts)
    (second : Tokens cs us) : us = ts := by
  have nothing : next? [] = none := rfl
  induction first generalizing us with
  | finish =>
      cases second with
      | finish => rfl
      | blank read _ | token read _ => cases nothing.symm.trans read
  | blank read _ ih =>
      cases second with
      | finish => cases nothing.symm.trans read
      | blank read' second =>
          cases read.symm.trans read'
          exact ih second
      | token read' _ => cases read.symm.trans read'
  | token read _ ih =>
      cases second with
      | finish => cases nothing.symm.trans read
      | blank read' _ => cases read.symm.trans read'
      | token read' second =>
          cases read.symm.trans read'
          rw [ih second]

/-! ## Values -/

mutual

def tokensOf : Json → List Token
  | .null => [.null]
  | .bool value => [.bool value]
  | .number text => [.number text]
  | .string value => [.string value]
  | .list items => .sign '[' :: itemTokens items
  | .object fields => .sign '{' :: fieldTokens fields

def itemTokens : List Json → List Token
  | [] => [.sign ']']
  | item :: items => tokensOf item ++ laterItemTokens items

def laterItemTokens : List Json → List Token
  | [] => [.sign ']']
  | item :: items => .sign ',' :: (tokensOf item ++ laterItemTokens items)

def fieldTokens : List (String × Json) → List Token
  | [] => [.sign '}']
  | (key, value) :: fields =>
    .string key :: .sign ':' :: (tokensOf value ++ laterFieldTokens fields)

def laterFieldTokens : List (String × Json) → List Token
  | [] => [.sign '}']
  | (key, value) :: fields =>
    .sign ',' :: .string key :: .sign ':' :: (tokensOf value ++ laterFieldTokens fields)

end

def IsJson (text : String) (value : Json) : Prop := Tokens text.toList (tokensOf value)

/-! ## A value has its own tokens -/

/-- No value starts with the sign that ends a list. -/
theorem tokensOf_ne_closing {v : Json} {ts us : List Token} :
    tokensOf v ++ ts ≠ .sign ']' :: us := by
  cases v <;> simp [tokensOf]

mutual

theorem tokensOf_cancel {v w : Json} {ts us : List Token}
    (same : tokensOf v ++ ts = tokensOf w ++ us) : v = w ∧ ts = us := by
  match v with
  | .null => cases w <;> simp_all [tokensOf]
  | .bool value => cases w <;> simp_all [tokensOf]
  | .number text => cases w <;> simp_all [tokensOf]
  | .string value => cases w <;> simp_all [tokensOf]
  | .list items =>
      cases w with
      | list items' =>
          rw [Json.list.injEq]
          exact itemTokens_cancel (List.cons.inj same).2
      | _ => simp [tokensOf] at same
  | .object fields =>
      cases w with
      | object fields' =>
          rw [Json.object.injEq]
          exact fieldTokens_cancel (List.cons.inj same).2
      | _ => simp [tokensOf] at same

theorem itemTokens_cancel {vs ws : List Json} {ts us : List Token}
    (same : itemTokens vs ++ ts = itemTokens ws ++ us) : vs = ws ∧ ts = us := by
  match vs, ws with
  | [], [] => exact ⟨rfl, (List.cons.inj same).2⟩
  | [], w :: ws =>
      rw [itemTokens, itemTokens, List.append_assoc] at same
      exact absurd same.symm tokensOf_ne_closing
  | v :: vs, [] =>
      rw [itemTokens, itemTokens, List.append_assoc] at same
      exact absurd same tokensOf_ne_closing
  | v :: vs, w :: ws =>
      rw [itemTokens, itemTokens, List.append_assoc, List.append_assoc] at same
      obtain ⟨rfl, later⟩ := tokensOf_cancel same
      obtain ⟨rfl, rest⟩ := laterItemTokens_cancel later
      exact ⟨rfl, rest⟩

theorem laterItemTokens_cancel {vs ws : List Json} {ts us : List Token}
    (same : laterItemTokens vs ++ ts = laterItemTokens ws ++ us) : vs = ws ∧ ts = us := by
  match vs, ws with
  | [], [] => exact ⟨rfl, (List.cons.inj same).2⟩
  | [], w :: ws => simp [laterItemTokens] at same
  | v :: vs, [] => simp [laterItemTokens] at same
  | v :: vs, w :: ws =>
      rw [laterItemTokens, laterItemTokens, List.cons_append, List.cons_append, List.append_assoc,
        List.append_assoc] at same
      obtain ⟨rfl, later⟩ := tokensOf_cancel (List.cons.inj same).2
      obtain ⟨rfl, rest⟩ := laterItemTokens_cancel later
      exact ⟨rfl, rest⟩

theorem fieldTokens_cancel {fs gs : List (String × Json)} {ts us : List Token}
    (same : fieldTokens fs ++ ts = fieldTokens gs ++ us) : fs = gs ∧ ts = us := by
  match fs, gs with
  | [], [] => exact ⟨rfl, (List.cons.inj same).2⟩
  | [], (key, value) :: gs => simp [fieldTokens] at same
  | (key, value) :: fs, [] => simp [fieldTokens] at same
  | (key, value) :: fs, (key', value') :: gs =>
      simp only [fieldTokens, List.cons_append, List.append_assoc, List.cons.injEq,
        Token.string.injEq, true_and] at same
      obtain ⟨rfl, same⟩ := same
      obtain ⟨rfl, later⟩ := tokensOf_cancel same
      obtain ⟨rfl, rest⟩ := laterFieldTokens_cancel later
      exact ⟨rfl, rest⟩

theorem laterFieldTokens_cancel {fs gs : List (String × Json)} {ts us : List Token}
    (same : laterFieldTokens fs ++ ts = laterFieldTokens gs ++ us) : fs = gs ∧ ts = us := by
  match fs, gs with
  | [], [] => exact ⟨rfl, (List.cons.inj same).2⟩
  | [], (key, value) :: gs => simp [laterFieldTokens] at same
  | (key, value) :: fs, [] => simp [laterFieldTokens] at same
  | (key, value) :: fs, (key', value') :: gs =>
      simp only [laterFieldTokens, List.cons_append, List.append_assoc, List.cons.injEq,
        Token.string.injEq, true_and] at same
      obtain ⟨rfl, same⟩ := same
      obtain ⟨rfl, later⟩ := tokensOf_cancel same
      obtain ⟨rfl, rest⟩ := laterFieldTokens_cancel later
      exact ⟨rfl, rest⟩

end

theorem IsJson.unique {text : String} {v w : Json} (first : IsJson text v)
    (second : IsJson text w) : w = v := by
  have same := Tokens.unique first second
  exact (tokensOf_cancel (congrArg (· ++ []) same)).1

end NetDiagram.Proofs.Notation
