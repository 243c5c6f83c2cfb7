import NetDiagram.Topology.Basic

/-!
# Nodes and links

Two of the three kinds of drawings look both ends of a connection up among what they have drawn for
components, and draw a link if they find them. Which connections have a link, and what a link
joins, is the same for both.

* `filter_eq_singleton`: a node that can be found by its key is the only one with this key.
* `map_linksFrom`, `map_number_linksFrom`: which connections have a link, and its number.
* `exists_of_mem_linksFrom`: what a link joins.
-/

namespace NetDiagram.Proofs.Drawing

variable {β κ : Type}

/-! ## Values that a list has once -/

/-- If a partial key tells the values of a list apart, then one value alone has its key. -/
theorem filter_eq_singleton [DecidableEq κ] {f : β → Option κ} {xs : List β} {x : β} {k : κ}
    (distinct : (xs.filterMap f).Nodup) (member : x ∈ xs) (has : f x = some k) :
    xs.filter (fun y => f y = some k) = [x] := by
  induction xs with
  | nil => cases member
  | cons y ys ih =>
      by_cases here : f y = some k
      · rw [List.filterMap_cons_some here, List.nodup_cons] at distinct
        obtain ⟨once, -⟩ := distinct
        have others : ys.filter (fun z => f z = some k) = [] := by
          rw [List.filter_eq_nil_iff]
          intro z later same
          exact once (List.mem_filterMap.mpr ⟨z, later, of_decide_eq_true same⟩)
        have first : x = y := by
          rcases List.mem_cons.mp member with first | later
          · exact first
          · exact absurd (List.mem_filterMap.mpr ⟨x, later, has⟩) once
        rw [List.filter_cons_of_pos (by simpa using here), others, first]
      · have later : x ∈ ys := by
          rcases List.mem_cons.mp member with first | later
          · exact absurd (first ▸ has) here
          · exact later
        rw [List.filter_cons_of_neg (by simpa using here)]
        refine ih ?_ later
        rw [List.filterMap_cons] at distinct
        split at distinct
        · exact distinct
        · exact (List.nodup_cons.mp distinct).2

theorem filter_eq_singleton_of_nodup_map [DecidableEq κ] {f : β → κ} {xs : List β} {x : β}
    (distinct : (xs.map f).Nodup) (member : x ∈ xs) : xs.filter (fun y => f y = f x) = [x] := by
  rw [← List.filterMap_eq_map] at distinct
  simpa using filter_eq_singleton distinct member rfl

theorem eq_of_nodup_map [DecidableEq κ] {f : β → κ} {xs : List β} {x y : β}
    (distinct : (xs.map f).Nodup) (first : x ∈ xs) (second : y ∈ xs) (same : f y = f x) :
    y = x := by
  have : y ∈ xs.filter fun z => f z = f x := List.mem_filter.mpr ⟨second, by simpa using same⟩
  rw [filter_eq_singleton_of_nodup_map distinct first] at this
  exact List.mem_singleton.mp this

/-- Values that a key tells apart are told apart by all that tells the key. -/
theorem nodup_map_of_nodup_map {δ : Type} {f : β → κ} {g : β → δ} {xs : List β}
    (distinct : (xs.map f).Nodup) (tells : ∀ x y, g x = g y → f x = f y) : (xs.map g).Nodup :=
  List.Pairwise.map g (fun x y other same => other (tells x y same)) (List.pairwise_map.mp distinct)

theorem mem_of_findRev? {p : β → Bool} {xs : List β} {x : β} (found : xs.findRev? p = some x) :
    x ∈ xs ∧ p x = true := by
  rw [List.findRev?_eq_find?_reverse] at found
  exact ⟨List.mem_reverse.mp (List.mem_of_find?_eq_some found), List.find?_some found⟩

theorem toDigits_injective {m n : Nat} (same : Nat.toDigits 10 m = Nat.toDigits 10 n) : m = n := by
  have := congrArg (Nat.ofDigitChars 10 · 0) same
  simpa [Nat.ofDigitChars_toDigits (b := 10) (by decide) (by decide)] using this

/-! ## Drawing connections -/

section Links

variable {γ : Type} {node? : Identity → Option β} {c : Connection}

def both? (node? : Identity → Option β) (c : Connection) : Option (β × β) := do
  let source ← node? c.source
  let target ← node? c.target
  return (source, target)

theorem isSome_both? :
    (both? node? c).isSome = ((node? c.source).isSome && (node? c.target).isSome) := by
  rw [both?]
  cases node? c.source with
  | none => rfl
  | some source => cases node? c.target <;> rfl

theorem both?_eq_some {source target : β} (found : both? node? c = some (source, target)) :
    node? c.source = some source ∧ node? c.target = some target := by
  rw [both?] at found
  cases first : node? c.source with
  | none => simp [first] at found
  | some source' =>
      cases second : node? c.target with
      | none => simp [first, second] at found
      | some target' => simpa [first, second] using found

/-- Draws the connections of which both ends have a node, numbered one after another. -/
def linksFrom (node? : Identity → Option β) (make : Nat → Connection → β × β → γ)
    (number : Nat) : List Connection → List γ
  | [] => []
  | c :: cs =>
    match both? node? c with
    | none => linksFrom node? make number cs
    | some ends => make number c ends :: linksFrom node? make (number + 1) cs

variable {make : Nat → Connection → β × β → γ} {number : Nat} {cs : List Connection}

theorem map_linksFrom {connection : γ → Connection}
    (made : ∀ n c ends, connection (make n c ends) = c) :
    (linksFrom node? make number cs).map connection =
      cs.filter fun c => (both? node? c).isSome := by
  induction cs generalizing number with
  | nil => rfl
  | cons c cs ih =>
      cases found : both? node? c with
      | none => simp [linksFrom, found, ih]
      | some ends => simp [linksFrom, found, made, ih]

theorem map_number_linksFrom {numberOf : γ → Nat}
    (made : ∀ n c ends, numberOf (make n c ends) = n) :
    (linksFrom node? make number cs).map numberOf =
      List.range' number (linksFrom node? make number cs).length := by
  induction cs generalizing number with
  | nil => rfl
  | cons c cs ih =>
      cases found : both? node? c with
      | none => simp [linksFrom, found, ih]
      | some ends => simp [linksFrom, found, made, ih, List.range'_succ]

theorem exists_of_mem_linksFrom {link : γ} (member : link ∈ linksFrom node? make number cs) :
    ∃ n c ends, both? node? c = some ends ∧ link = make n c ends := by
  induction cs generalizing number with
  | nil => cases member
  | cons c cs ih =>
      rw [linksFrom] at member
      split at member
      · exact ih member
      · rename_i ends found
        rcases List.mem_cons.mp member with rfl | later
        · exact ⟨number, c, ends, found, rfl⟩
        · exact ih later

end Links

end NetDiagram.Proofs.Drawing
