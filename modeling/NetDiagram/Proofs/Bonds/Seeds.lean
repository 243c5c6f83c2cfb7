import Mathlib.Data.List.Nodup
import Mathlib.Data.Nat.Bitwise
import Mathlib.Data.Nat.ModEq
import NetDiagram.Proofs.Bonds.Fields

/-!
# Numbers that tell elements apart

Every element of a scene has two numbers that are made from its place. A place is multiplied, with
what goes beyond a word cut off, mixed with a salt and cut down to 31 bits. All of this can be done
on the last 31 bits alone, where neither the odd factor nor the salt brings two places together.

* `seed_eq`: the number in terms of the last 31 bits.
* `seed_eq_iff`: when two places have the same number.
* `IsSeeded`: what the document says for the elements.
-/

namespace NetDiagram.Proofs.Bonds
open Scene

/-! ## The numbers of places -/

/-- What is cut off in between does not show in the last 31 bits. -/
theorem seed_eq (index : Nat) (salt : UInt64) :
    seed index salt = (index + 1) * 2654435761 % 2 ^ 31 ^^^ salt.toNat % 2 ^ 31 := by
  have mask : (0x7fffffff : UInt64).toNat = 2 ^ 31 - 1 := rfl
  have factor : (2654435761 : UInt64).toNat = 2654435761 := rfl
  have product : (index % 2 ^ 64 + 1) % 2 ^ 64 * 2654435761 % 2 ^ 64 % 2 ^ 31 =
      (index + 1) * 2654435761 % 2 ^ 31 := by
    omega
  rw [seed, UInt64.toNat_and, UInt64.toNat_xor, UInt64.toNat_mul, UInt64.toNat_add,
    UInt64.toNat_ofNat', UInt64.toNat_one, mask, factor, Nat.and_two_pow_sub_one_eq_mod,
    Nat.xor_mod_two_pow, product]

theorem seed_lt (index : Nat) (salt : UInt64) : seed index salt < 2 ^ 31 := by
  rw [seed_eq]
  exact Nat.xor_lt_two_pow (Nat.mod_lt _ (Nat.two_pow_pos 31)) (Nat.mod_lt _ (Nat.two_pow_pos 31))

theorem seed_eq_iff (i j : Nat) (salt : UInt64) :
    seed i salt = seed j salt ↔ i ≡ j [MOD 2 ^ 31] := by
  have odd : Nat.gcd (2 ^ 31) 2654435761 = 1 := by decide
  rw [seed_eq, seed_eq, Nat.xor_left_inj]
  constructor
  · intro products
    have places : i + 1 ≡ j + 1 [MOD 2 ^ 31] := Nat.ModEq.cancel_right_of_coprime odd products
    exact Nat.ModEq.add_right_cancel' 1 places
  · intro places
    exact (places.add_right 1).mul_right 2654435761

/-! The first place that does not get a number of its own. -/

example : seed (2 ^ 31) versionSalt = seed 0 versionSalt := by
  decide

theorem seed_inj {i j n : Nat} (few : n ≤ 2 ^ 31) (first : i < n) (second : j < n) {salt : UInt64}
    (same : seed i salt = seed j salt) : i = j :=
  ((seed_eq_iff i j salt).mp same).eq_of_lt_of_lt (Nat.lt_of_lt_of_le first few)
    (Nat.lt_of_lt_of_le second few)

/-! ## The numbers of elements -/

theorem nat_injective : Function.Injective Json.nat := by
  intro m n same
  have digits := congrArg String.toList (Json.number.inj same)
  exact Drawing.toDigits_injective (by simpa using digits)

/-- Under the name, every element has the number of its place, and no other element has the same if
there are no more elements than numbers. -/
structure IsSeeded (name : String) (salt : UInt64) (es : List (Element Float32)) : Prop where
  numbers : es.map (fieldOf? name ·.json) =
    (List.range es.length).map fun index => some (.nat (seed index salt))
  distinct : es.length ≤ 2 ^ 31 → (es.map (fieldOf? name ·.json)).Nodup

theorem isSeeded_of_isIndexed {name : String} {salt : UInt64} {es : List (Element Float32)}
    (indexed : IsIndexed es)
    (field : ∀ e : Element Float32, fieldOf? name e.json = some (.nat (seed e.id.index salt))) :
    IsSeeded name salt es := by
  have numbers : es.map (fieldOf? name ·.json) =
      (List.range es.length).map fun index => some (.nat (seed index salt)) := by
    rw [← indexed, List.map_map]
    exact List.map_congr_left fun e _ => field e
  refine ⟨numbers, fun few => ?_⟩
  rw [numbers]
  refine List.Nodup.map_on (fun i first j second same => ?_) List.nodup_range
  rw [List.mem_range] at first second
  exact seed_inj few first second (nat_injective (Option.some.inj same))

theorem seed_field (e : Element Float32) :
    fieldOf? "seed" e.json = some (.nat (seed e.id.index 0)) := by
  cases shape : e.shape <;> simp [Element.json, fieldOf?, shape, Shape.fields, List.lookup_cons]

theorem versionNonce_field (e : Element Float32) :
    fieldOf? "versionNonce" e.json = some (.nat (seed e.id.index versionSalt)) := by
  cases shape : e.shape <;> simp [Element.json, fieldOf?, shape, Shape.fields, List.lookup_cons]

theorem isIndexed_ofLayout (t : Topology) (l : Layout Float32) :
    IsIndexed (Scene.ofLayout t l).elements :=
  isIndexed_elementsOf (isNumbered_arrowsFrom (isNumbered_number _).boxes _)

theorem exists_drawn (background : String) (t : Topology) (l : Layout Float32) :
    ∃ es, draw t l = some es ∧
      (Scene.render background t l).content = (documentJson background es).pretty ∧
      IsIndexed es := by
  rw [draw, Scene.render]
  by_cases none : (t.isEmpty || l.isEmpty) = true
  · rw [if_pos none, if_pos none]
    exact ⟨_, rfl, rfl, rfl⟩
  · rw [if_neg none, if_neg none]
    exact ⟨_, assemble_eq t l, rfl, isIndexed_ofLayout t l⟩

/-! ## The statement -/

/-- The number of a place has 31 bits, and two places have the same number if and only if they differ
by a multiple of `2 ^ 31`, whatever the salt. So every element that is drawn for a document has a
seed of its own, and a number of its own for its version, if there are no more than `2 ^ 31`. -/
theorem seeds_keep_apart :
    (∀ index salt, seed index salt < 2 ^ 31) ∧
      (∀ salt i j, seed i salt = seed j salt ↔ i ≡ j [MOD 2 ^ 31]) ∧
      ∀ background t l, ∃ es, draw t l = some es ∧
        (Scene.render background t l).content = (documentJson background es).pretty ∧
        IsSeeded "seed" 0 es ∧ IsSeeded "versionNonce" versionSalt es := by
  refine ⟨seed_lt, fun salt i j => seed_eq_iff i j salt, fun background t l => ?_⟩
  obtain ⟨es, drawn, content, indexed⟩ := exists_drawn background t l
  exact ⟨es, drawn, content, isSeeded_of_isIndexed indexed seed_field,
    isSeeded_of_isIndexed indexed versionNonce_field⟩

end NetDiagram.Proofs.Bonds
