import NetDiagram.Source.Token

/-!
# What tokens say about characters

The tokens of a line, put together, are the line. What a character becomes depends on the
characters before it, but an opening bracket always starts a token of its own, whatever comes
first: a field that was never closed, a stray bracket or half of the connector. So a line can be cut
in front of any opening bracket and the parts be tokenized on their own, and behind a closing
bracket the tokens start afresh.
-/

namespace NetDiagram.Proofs.Reading
open Source

/-! ## Nothing is lost -/

def textOf (tokens : List Token) : List Char := tokens.flatMap Token.text

@[simp] theorem textOf_nil : textOf [] = [] := rfl

@[simp] theorem textOf_cons (t : Token) (ts : List Token) :
    textOf (t :: ts) = t.text ++ textOf ts := rfl

@[simp] theorem textOf_append (ts us : List Token) : textOf (ts ++ us) = textOf ts ++ textOf us :=
  List.flatMap_append

theorem textOf_fieldToken (text : List Char) : textOf (fieldToken text) = text := by
  cases text with
  | nil => rfl
  | cons c cs => simp [fieldToken, Token.text]

theorem textOf_tokenize (line : List Char) : textOf (tokenize line) = line := by
  fun_induction tokenize line with
  | case1 => rfl
  | case2 cs ih =>
      rw [textOf_cons, textOf_append, textOf_fieldToken, ih, List.takeWhile_append_dropWhile]
      rfl
  | case3 cs ih => rw [textOf_cons, ih, Token.text, List.singleton_append]
  | case4 cs ih => rw [textOf_cons, ih, Token.text, List.cons_append, List.singleton_append]
  | case5 cs ih => rw [textOf_cons, ih, Token.text, List.singleton_append]
  | case6 cs _ ih => rw [textOf_cons, ih, Token.text, List.singleton_append]
  | case7 c cs _ _ _ _ _ ih =>
      rw [textOf_cons, ih, Token.text, List.cons_append, List.takeWhile_append_dropWhile]

/-! ## The texts of tokens -/

/-- A text that can stand between two brackets. -/
def IsName (text : List Char) : Prop := text ≠ [] ∧ ∀ c ∈ text, isBracket c = false

theorem isName_of_mem_fieldToken {text cs : List Char}
    (member : .field text ∈ fieldToken (cs.takeWhile (!isBracket ·))) : IsName text := by
  have inside := List.all_takeWhile (p := (!isBracket ·)) (l := cs)
  cases taken : cs.takeWhile (!isBracket ·) with
  | nil => simp [taken, fieldToken] at member
  | cons d ds =>
      rw [taken, fieldToken, List.mem_singleton, Token.field.injEq] at member
      · rw [taken, ← member] at inside
        exact ⟨by simp [member], by simpa using inside⟩
      · simp

theorem isName_of_mem_tokenize {text line : List Char} (member : .field text ∈ tokenize line) :
    IsName text := by
  fun_induction tokenize line with
  | case1 => simp at member
  | case2 cs ih =>
      simp only [List.mem_cons, List.mem_append, reduceCtorEq, false_or] at member
      exact member.elim isName_of_mem_fieldToken ih
  | case3 cs ih => exact ih (by simpa using member)
  | case4 cs ih => exact ih (by simpa using member)
  | case5 cs ih => exact ih (by simpa using member)
  | case6 cs _ ih => exact ih (by simpa using member)
  | case7 c cs _ _ _ _ _ ih => exact ih (by simpa using member)

theorem filler_ne_nil_of_mem_tokenize {text line : List Char}
    (member : .filler text ∈ tokenize line) : text ≠ [] := by
  fun_induction tokenize line with
  | case1 => simp at member
  | case2 cs ih =>
      simp only [List.mem_cons, List.mem_append, reduceCtorEq, false_or] at member
      rcases member with field | member
      · cases taken : cs.takeWhile (!isBracket ·) <;> simp [taken, fieldToken] at field
      · exact ih member
  | case3 cs ih => exact ih (by simpa using member)
  | case4 cs ih => exact ih (by simpa using member)
  | case5 cs ih => exact ih (by simpa using member)
  | case6 cs _ ih =>
      rcases List.mem_cons.mp member with first | member
      · simp [Token.filler.inj first]
      · exact ih member
  | case7 c cs _ _ _ _ _ ih =>
      rcases List.mem_cons.mp member with first | member
      · simp [Token.filler.inj first]
      · exact ih member

theorem text_ne_nil_of_mem_tokenize {t : Token} {line : List Char} (member : t ∈ tokenize line) :
    t.text ≠ [] := by
  cases t with
  | field text => exact (isName_of_mem_tokenize member).1
  | filler text => exact filler_ne_nil_of_mem_tokenize member
  | opening | closing | possessive | connector => simp [Token.text]

/-! ## One token -/

theorem tokenize_opening (cs : List Char) :
    tokenize ('【' :: cs) = .opening ::
      (fieldToken (cs.takeWhile (!isBracket ·)) ++ tokenize (cs.dropWhile (!isBracket ·))) := by
  rw [tokenize]

theorem tokenize_closing (cs : List Char) : tokenize ('】' :: cs) = .closing :: tokenize cs := by
  rw [tokenize]

theorem tokenize_connector (cs : List Char) :
    tokenize ('连' :: '接' :: cs) = .connector :: tokenize cs := by
  rw [tokenize]

theorem tokenize_possessive (cs : List Char) :
    tokenize ('的' :: cs) = .possessive :: tokenize cs := by
  rw [tokenize]

theorem tokenize_lone {cs : List Char} (other : ∀ rest, cs = '接' :: rest → False) :
    tokenize ('连' :: cs) = .filler ['连'] :: tokenize cs := by
  rw [tokenize]
  exact other

theorem tokenize_filler {c : Char} (free : isReserved c = false) (cs : List Char) :
    tokenize (c :: cs) = .filler (c :: cs.takeWhile (!isReserved ·)) ::
      tokenize (cs.dropWhile (!isReserved ·)) := by
  rw [tokenize]
  all_goals
    intros
    subst_vars
    revert free
    decide

/-! ## Cutting a line in front of an opening bracket -/

theorem takeWhile_append_stop {p : Char → Bool} {c : Char} (stop : p c = false)
    (before after : List Char) : (before ++ c :: after).takeWhile p = before.takeWhile p := by
  rw [List.takeWhile_append, List.takeWhile_cons_of_neg (by simp [stop]), List.append_nil]
  split
  · rename_i whole
    exact ((List.takeWhile_sublist p).eq_of_length whole).symm
  · rfl

theorem dropWhile_append_stop {p : Char → Bool} {c : Char} (stop : p c = false)
    (before after : List Char) :
    (before ++ c :: after).dropWhile p = before.dropWhile p ++ c :: after := by
  rw [List.dropWhile_append, List.dropWhile_cons_of_neg (by simp [stop])]
  split
  · rename_i none
    rw [List.isEmpty_iff.mp none, List.nil_append]
  · rfl

theorem tokenize_append_opening (before after : List Char) :
    tokenize (before ++ '【' :: after) = tokenize before ++ tokenize ('【' :: after) := by
  fun_induction tokenize before with
  | case1 => rfl
  | case2 cs ih =>
      rw [List.cons_append, tokenize_opening (cs ++ _), takeWhile_append_stop rfl,
        dropWhile_append_stop rfl, ih, List.cons_append, List.append_assoc]
  | case3 cs ih => rw [List.cons_append, tokenize_closing, ih, List.cons_append]
  | case4 cs ih => rw [List.cons_append, List.cons_append, tokenize_connector, ih, List.cons_append]
  | case5 cs ih => rw [List.cons_append, tokenize_possessive, ih, List.cons_append]
  | case6 cs other ih =>
      -- What follows does not complete the connector either, for it starts with a bracket.
      have other : ∀ rest, cs ++ '【' :: after = '接' :: rest → False := by
        intro rest same
        cases cs with
        | nil => simp at same
        | cons d ds => exact other ds (by rw [(List.cons.inj same).1])
      rw [List.cons_append, tokenize_lone other, ih, List.cons_append]
  | case7 c cs opening closing _ possessive connector ih =>
      have free : isReserved c = false := by
        simpa [isReserved, isBracket] using ⟨⟨⟨opening, closing⟩, possessive⟩, connector⟩
      rw [List.cons_append, tokenize_filler free, takeWhile_append_stop rfl,
        dropWhile_append_stop rfl, ih, List.cons_append]

/-! ## Tokens of a bracketed field -/

theorem fieldToken_of_ne_nil {text : List Char} (ne : text ≠ []) :
    fieldToken text = [.field text] := by
  cases text with
  | nil => contradiction
  | cons c cs => rfl

theorem tokenize_bracketed {name : List Char} (h : IsName name) (after : List Char) :
    tokenize ('【' :: (name ++ '】' :: after)) =
      .opening :: .field name :: .closing :: tokenize after := by
  have inside : ∀ c ∈ name, (!isBracket c) = true := by simpa using h.2
  rw [tokenize_opening, List.takeWhile_append_of_pos inside, List.dropWhile_append_of_pos inside,
    List.takeWhile_cons_of_neg (by decide), List.dropWhile_cons_of_neg (by decide),
    List.append_nil, fieldToken_of_ne_nil h.1, tokenize_closing]
  rfl

end NetDiagram.Proofs.Reading
