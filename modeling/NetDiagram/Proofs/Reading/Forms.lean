import NetDiagram.Proofs.Reading.Tokens
import NetDiagram.Source.Statement

/-!
# Written forms of statements

A statement as a text, as a list of tokens, and as what the readers return for it. The three agree:
a text in the form of a statement has its tokens, whatever follows it, and the readers accept just
these tokens and return the names in them with the places where they stand.
-/

namespace NetDiagram.Proofs.Reading
open Source Text

/-! ## Texts -/

def bracketForm (name : String) : List Char := '【' :: (name.toList ++ ['】'])

def endpointForm (p : Path) : List Char :=
  bracketForm p.environment ++ (bracketForm p.datacenter ++
    '的' :: (bracketForm p.area ++ bracketForm p.device))

def statementForm (source target : Path) : List Char :=
  endpointForm source ++ '连' :: '接' :: endpointForm target

/-- Whether all four names can stand between brackets. -/
def IsWritable (p : Path) : Prop := ∀ name ∈ p.names, IsName name.toList

theorem isWritable_iff {p : Path} :
    IsWritable p ↔ IsName p.environment.toList ∧ IsName p.datacenter.toList ∧
      IsName p.area.toList ∧ IsName p.device.toList := by
  simp [IsWritable, Path.names]

theorem byteLength_bracketForm (name : String) :
    byteLength (bracketForm name) = byteLength Token.opening.text +
      byteLength (Token.field name.toList).text + byteLength Token.closing.text := by
  simp [bracketForm, Token.text, Nat.add_assoc]

theorem byteLength_endpointForm (p : Path) :
    byteLength (endpointForm p) = byteLength (bracketForm p.environment) +
      byteLength (bracketForm p.datacenter) + byteLength Token.possessive.text +
      byteLength (bracketForm p.area) + byteLength (bracketForm p.device) := by
  simp [endpointForm, Token.text, Nat.add_assoc]

theorem byteLength_statementForm (source target : Path) :
    byteLength (statementForm source target) = byteLength (endpointForm source) +
      byteLength Token.connector.text + byteLength (endpointForm target) := by
  simp [statementForm, Token.text, Nat.add_assoc]

/-! ## Tokens -/

def bracketTokens (name : String) : List Token := [.opening, .field name.toList, .closing]

def endpointTokens (p : Path) : List Token :=
  bracketTokens p.environment ++ (bracketTokens p.datacenter ++
    .possessive :: (bracketTokens p.area ++ bracketTokens p.device))

def statementTokens (source target : Path) : List Token :=
  endpointTokens source ++ .connector :: endpointTokens target

@[simp] theorem textOf_bracketTokens (name : String) :
    textOf (bracketTokens name) = bracketForm name := by
  simp [bracketTokens, bracketForm, Token.text]

@[simp] theorem textOf_endpointTokens (p : Path) : textOf (endpointTokens p) = endpointForm p := by
  simp [endpointTokens, endpointForm, Token.text]

@[simp] theorem textOf_statementTokens (source target : Path) :
    textOf (statementTokens source target) = statementForm source target := by
  simp [statementTokens, statementForm, Token.text]

theorem tokenize_bracketForm {name : String} (h : IsName name.toList) (after : List Char) :
    tokenize (bracketForm name ++ after) = bracketTokens name ++ tokenize after := by
  rw [bracketForm, List.cons_append, List.append_assoc, List.singleton_append,
    tokenize_bracketed h]
  rfl

theorem tokenize_endpointForm {p : Path} (h : IsWritable p) (after : List Char) :
    tokenize (endpointForm p ++ after) = endpointTokens p ++ tokenize after := by
  obtain ⟨environment, datacenter, area, device⟩ := isWritable_iff.mp h
  simp only [endpointForm, endpointTokens, List.append_assoc, List.cons_append,
    tokenize_bracketForm environment, tokenize_bracketForm datacenter, tokenize_possessive,
    tokenize_bracketForm area, tokenize_bracketForm device]

theorem tokenize_statementForm {source target : Path} (hs : IsWritable source)
    (ht : IsWritable target) (after : List Char) :
    tokenize (statementForm source target ++ after) =
      statementTokens source target ++ tokenize after := by
  rw [statementForm, List.append_assoc, tokenize_endpointForm hs, List.cons_append,
    List.cons_append, tokenize_connector, tokenize_endpointForm ht, statementTokens,
    List.append_assoc, List.cons_append]

/-! ## Readers -/

def endpointAt (offset : Nat) (p : Path) : Endpoint :=
  ⟨p, offset, offset + byteLength (endpointForm p)⟩

def statementAt (offset : Nat) (source target : Path) : Statement where
  source := endpointAt offset source
  target := endpointAt
    (offset + byteLength (endpointForm source) + byteLength Token.connector.text) target

theorem run_bind_ok {α β : Type} {m : Reader α} {f : α → Reader β} {ts : List Placed}
    {r : β × List Placed} :
    (m >>= f).run ts = .ok r ↔ ∃ a rest, m.run ts = .ok (a, rest) ∧ (f a).run rest = .ok r := by
  rw [StateT.run_bind]
  cases m.run ts with
  | error stop =>
      constructor
      · intro h
        cases h
      · rintro ⟨a, rest, h, -⟩
        cases h
  | ok result =>
      constructor
      · intro h
        exact ⟨result.1, result.2, rfl, h⟩
      · rintro ⟨a, rest, same, h⟩
        cases same
        exact h

theorem run_pure_ok {α : Type} {a : α} {ts : List Placed} {r : α × List Placed} :
    (pure a : Reader α).run ts = .ok r ↔ r = (a, ts) := by
  constructor
  · intro h
    exact (Except.ok.inj h).symm
  · rintro rfl
    rfl

theorem expect_ok {slot : Slot} {offset : Nat} {ts : List Token} {r : Placed × List Placed} :
    (expect slot).run (place offset ts) = .ok r ↔
      ∃ t left, ts = t :: left ∧ slot.fits t = true ∧
        r = (⟨t, offset, offset + byteLength t.text⟩,
          place (offset + byteLength t.text) left) := by
  cases ts with
  | nil =>
      constructor
      · intro h
        cases h
      · rintro ⟨t, left, same, -⟩
        cases same
  | cons t ts =>
      rw [place, StateT.run, expect]
      constructor
      · intro h
        split at h
        · rename_i fits
          exact ⟨t, ts, rfl, fits, (Except.ok.inj h).symm⟩
        · cases h
      · rintro ⟨t, left, same, fits, rfl⟩
        cases same
        rw [if_pos fits]

theorem fits_iff {slot : Slot} {t : Token} :
    slot.fits t = true ↔ match slot with
      | .opening => t = .opening
      | .field => ∃ text, t = .field text
      | .closing => t = .closing
      | .possessive => t = .possessive
      | .connector => t = .connector := by
  cases slot <;> cases t <;> simp [Slot.fits]

theorem union_mk {a b c d : Nat} (start : a ≤ c) (stop : b ≤ d) :
    Span.union ⟨a, b⟩ ⟨c, d⟩ = ⟨a, d⟩ := by
  rw [Span.union, Nat.min_eq_left start, Nat.max_eq_right stop]

theorem bracketed_ok {offset : Nat} {ts : List Token} {r : (String × Span) × List Placed} :
    bracketed.run (place offset ts) = .ok r ↔
      ∃ name left, ts = bracketTokens name ++ left ∧
        r = ((name, ⟨offset, offset + byteLength (bracketForm name)⟩),
          place (offset + byteLength (bracketForm name)) left) := by
  simp only [bracketed, run_bind_ok, run_pure_ok]
  constructor
  · rintro ⟨first, rest, opens, field, rest', names, last, rest'', closes, rfl⟩
    obtain ⟨t, ts, rfl, fits, same⟩ := expect_ok.mp opens
    cases fits_iff.mp fits
    cases same
    obtain ⟨t, ts, rfl, fits, same⟩ := expect_ok.mp names
    obtain ⟨text, rfl⟩ := fits_iff.mp fits
    cases same
    obtain ⟨t, ts, rfl, fits, same⟩ := expect_ok.mp closes
    cases fits_iff.mp fits
    cases same
    refine ⟨.ofList text, ts, ?_, ?_⟩
    · rw [bracketTokens, String.toList_ofList]
      rfl
    · simp (disch := omega) only [union_mk, byteLength_bracketForm, String.toList_ofList,
        Nat.add_assoc]
      rfl
  · rintro ⟨name, left, rfl, rfl⟩
    refine ⟨_, _, expect_ok.mpr ⟨.opening, _, rfl, rfl, rfl⟩,
      _, _, expect_ok.mpr ⟨.field name.toList, _, rfl, rfl, rfl⟩,
      _, _, expect_ok.mpr ⟨.closing, _, rfl, rfl, rfl⟩, ?_⟩
    simp (disch := omega) only [union_mk, byteLength_bracketForm, Nat.add_assoc]
    have text : String.ofList (Token.field name.toList).text = name := String.ofList_toList
    rw [text]
    rfl

theorem endpoint_ok {offset : Nat} {ts : List Token} {r : Endpoint × List Placed} :
    endpoint.run (place offset ts) = .ok r ↔
      ∃ p left, ts = endpointTokens p ++ left ∧
        r = (endpointAt offset p, place (offset + byteLength (endpointForm p)) left) := by
  simp only [endpoint, run_bind_ok, run_pure_ok]
  constructor
  · rintro ⟨⟨environment, first⟩, rest, h₁, ⟨datacenter, _⟩, rest₂, h₂, t, rest₃, h₃,
      ⟨area, _⟩, rest₄, h₄, ⟨device, last⟩, rest₅, h₅, rfl⟩
    obtain ⟨_, ts, rfl, same⟩ := bracketed_ok.mp h₁
    cases same
    obtain ⟨_, ts, rfl, same⟩ := bracketed_ok.mp h₂
    cases same
    obtain ⟨_, ts, rfl, fits, same⟩ := expect_ok.mp h₃
    cases fits_iff.mp fits
    cases same
    obtain ⟨_, ts, rfl, same⟩ := bracketed_ok.mp h₄
    cases same
    obtain ⟨_, ts, rfl, same⟩ := bracketed_ok.mp h₅
    cases same
    refine ⟨⟨environment, datacenter, area, device⟩, ts, ?_, ?_⟩
    · simp [endpointTokens]
    · simp (disch := omega) only [endpointAt, union_mk, byteLength_endpointForm, Nat.add_assoc]
  · rintro ⟨p, left, rfl, rfl⟩
    simp only [endpointTokens, List.append_assoc, List.cons_append]
    refine ⟨_, _, bracketed_ok.mpr ⟨p.environment, _, rfl, rfl⟩,
      _, _, bracketed_ok.mpr ⟨p.datacenter, _, rfl, rfl⟩,
      _, _, expect_ok.mpr ⟨.possessive, _, rfl, rfl, rfl⟩,
      _, _, bracketed_ok.mpr ⟨p.area, _, rfl, rfl⟩,
      _, _, bracketed_ok.mpr ⟨p.device, _, rfl, rfl⟩, ?_⟩
    simp (disch := omega) only [endpointAt, union_mk, byteLength_endpointForm, Nat.add_assoc]

theorem statement_ok {offset : Nat} {ts : List Token} {r : Statement × List Placed} :
    statement.run (place offset ts) = .ok r ↔
      ∃ source target left, ts = statementTokens source target ++ left ∧
        r = (statementAt offset source target,
          place (offset + byteLength (statementForm source target)) left) := by
  simp only [statement, run_bind_ok, run_pure_ok]
  constructor
  · rintro ⟨e, rest, h₁, t, rest₂, h₂, e', rest₃, h₃, rfl⟩
    obtain ⟨source, ts, rfl, same⟩ := endpoint_ok.mp h₁
    cases same
    obtain ⟨_, ts, rfl, fits, same⟩ := expect_ok.mp h₂
    cases fits_iff.mp fits
    cases same
    obtain ⟨target, ts, rfl, same⟩ := endpoint_ok.mp h₃
    cases same
    refine ⟨source, target, ts, ?_, ?_⟩
    · rw [statementTokens, List.append_assoc, List.cons_append]
    · simp only [statementAt, byteLength_statementForm, Nat.add_assoc]
  · rintro ⟨source, target, left, rfl, rfl⟩
    simp only [statementTokens, List.append_assoc, List.cons_append]
    refine ⟨_, _, endpoint_ok.mpr ⟨source, _, rfl, rfl⟩,
      _, _, expect_ok.mpr ⟨.connector, _, rfl, rfl, rfl⟩,
      _, _, endpoint_ok.mpr ⟨target, _, rfl, rfl⟩, ?_⟩
    simp only [statementAt, byteLength_statementForm, Nat.add_assoc]

end NetDiagram.Proofs.Reading
