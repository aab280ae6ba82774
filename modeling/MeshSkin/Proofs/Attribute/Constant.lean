import MeshSkin.Proofs.Attribute.Appended
import MeshSkin.Proofs.Binary64.Arithmetic
import MeshSkin.Subdivision

/-!
# Sums of one value

The weights of a quad add up to one, but the sum of a constant is not formed at once: minus a quarter
is added four times and one half four times, and from the third step on a sum may need more than 53
digits. It is off by then, and the next step brings it back (`nearest_thrice`), so that what comes out
is the float that went in (`denotes_sumOf_const`). Bytes therefore keep their value, and integers
the value that a float can hold (`settle`).
-/

namespace MeshSkin

namespace Binary64

/-- A quotient by four is `q` if the distance is less than two, or two and `q` even. -/
theorem roundQuotient_four {x q : Nat} (below : 4 * q ≤ x + 2) (above : x ≤ 4 * q + 2)
    (even : x + 2 = 4 * q ∨ x = 4 * q + 2 → q % 2 = 0) : roundQuotient .toEven x 4 = q := by
  simp only [roundQuotient]
  split
  · omega
  · split
    · omega
    · omega

/-- With 53 digits three times a number may be off, but four times it is what comes next. -/
theorem nearestNat_thrice_of_full {m : Nat} (low : 2 ^ 52 ≤ m) (high : m < 2 ^ 53) :
    nearestNat (nearestNat (3 * m) + m) = 4 * m := by
  obtain ⟨thrice, rounded, lower, upper, even, long⟩ : ∃ thrice, nearestNat (3 * m) = thrice ∧
      3 * m ≤ thrice + 2 ∧ thrice ≤ 3 * m + 2 ∧
        (3 * m = thrice + 2 ∨ thrice = 3 * m + 2 → m % 2 = 0) ∧ 2 ^ 54 ≤ thrice + m := by
    by_cases short : 3 * m < 2 ^ 54
    · have near := roundQuotient_bounds .toEven (3 * m) (by decide : 0 < 2)
      refine ⟨roundQuotient .toEven (3 * m) 2 * 2, nearestNat_eq (k := 1) (Or.inr (by omega)) short,
        by omega, by omega, by omega, ?_⟩
      rcases Nat.eq_or_lt_of_le low with least | more
      · omega
      · omega
    · have near := roundQuotient_bounds .toEven (3 * m) (by decide : 0 < 4)
      exact ⟨roundQuotient .toEven (3 * m) 4 * 4,
        nearestNat_eq (k := 2) (Or.inr (by omega)) (by omega), by omega, by omega, by omega, by omega⟩
  rw [rounded, nearestNat_eq (k := 2) (Or.inr long) (by omega)]
  show roundQuotient .toEven (thrice + m) 4 * 4 = 4 * m
  rw [roundQuotient_four (q := m) (by omega) (by omega) (by omega), Nat.mul_comm]

/-- A number that is not rounded has exactly 53 digits up to scale. -/
theorem exists_full {m : Nat} (positive : 0 < m) (exact : nearestNat m = m) :
    ∃ full j k, 2 ^ 52 ≤ full ∧ full < 2 ^ 53 ∧ m * 2 ^ j = full * 2 ^ k := by
  obtain ⟨r, k, small, short⟩ := exists_short m
  rw [exact] at short
  have nonzero : 0 < r := Nat.pos_of_ne_zero (by rintro rfl; omega)
  have digits : (r * 2 ^ (52 - r.log2)).log2 = 52 := by
    have upper := (Nat.log2_lt nonzero.ne').2 small
    rw [log2_mul_two_pow nonzero]
    omega
  have scaled : r * 2 ^ (52 - r.log2) ≠ 0 := (Nat.mul_pos nonzero (Nat.pow_pos (by decide))).ne'
  have bounds := (Nat.log2_eq_iff scaled).1 digits
  exact ⟨_, 52 - r.log2, k, bounds.1, bounds.2, by rw [short, Nat.mul_right_comm]⟩

theorem nearestNat_thrice {m : Nat} (exact : nearestNat m = m) :
    nearestNat (nearestNat (3 * m) + m) = 4 * m := by
  rcases Nat.eq_zero_or_pos m with rfl | positive
  · rfl
  obtain ⟨full, j, k, low, high, scaled⟩ := exists_full positive exact
  refine Nat.eq_of_mul_eq_mul_right (Nat.pow_pos (n := j) (by decide : 0 < 2)) ?_
  calc
    nearestNat (nearestNat (3 * m) + m) * 2 ^ j
      = nearestNat (nearestNat (3 * (m * 2 ^ j)) + m * 2 ^ j) := by
        rw [← nearestNat_mul_two_pow, Nat.add_mul, ← nearestNat_mul_two_pow, Nat.mul_assoc]
    _ = nearestNat (nearestNat (3 * full) + full) * 2 ^ k := by
        rw [scaled, ← Nat.mul_assoc, nearestNat_mul_two_pow, ← Nat.add_mul, nearestNat_mul_two_pow]
    _ = 4 * m * 2 ^ j := by
        rw [nearestNat_thrice_of_full low high, Nat.mul_assoc, Nat.mul_assoc, scaled]

/-- Three times a number, rounded, and once more the number make four times the number. -/
theorem nearest_thrice {n : Int} (exact : nearest n = n) :
    nearest (nearest (3 * n) + n) = 4 * n := by
  have natural : ∀ m : Nat, nearest (m : Int) = m → nearest (nearest (3 * m) + m) = 4 * m := by
    intro m exact
    rw [nearest_natCast, Int.ofNat_inj] at exact
    have thrice : nearest (3 * (m : Int)) = (nearestNat (3 * m) : Nat) := nearest_natCast (3 * m)
    rw [thrice, ← Int.natCast_add, nearest_natCast, nearestNat_thrice exact]
    rfl
  obtain ⟨m, rfl | rfl⟩ := n.eq_nat_or_neg
  · exact natural m exact
  · rw [nearest_neg, Int.neg_inj] at exact
    rw [mul_neg, nearest_neg, ← neg_add, nearest_neg, natural m exact, mul_neg]

theorem denotes_quarter : Denotes (-0.25) ((-1 : Int) * 2 ^ (-2 : Int)) := by
  refine ⟨(by decide : 2 ^ 52 ≤ 2 ^ 52 ∧ 2 ^ 52 < 2 ^ 53 ∧ (-1074 : Int) ≤ -54 ∧ (-54 : Int) ≤ 971), ?_⟩
  show ((-(2 ^ 52 : Nat) : Int) : ℚ) * 2 ^ (-54 : Int) = _
  norm_num

theorem denotes_half : Denotes 0.5 ((2 : Int) * 2 ^ (-2 : Int)) := by
  refine ⟨(by decide : 2 ^ 52 ≤ 2 ^ 52 ∧ 2 ^ 52 < 2 ^ 53 ∧ (-1074 : Int) ≤ -53 ∧ (-53 : Int) ≤ 971), ?_⟩
  show (((2 ^ 52 : Nat) : Int) : ℚ) * 2 ^ (-53 : Int) = _
  norm_num

theorem denotes_negativeZero (e : Int) : Denotes (-0.0) ((0 : Int) * 2 ^ e) :=
  ⟨trivial, by rw [Int.cast_zero, zero_mul]; rfl⟩

section Sum

variable {x : Float} {a : Int}

theorem nearest_twice (exact : nearest a = a) : nearest (2 * a) = 2 * a := by
  have scaled := nearest_mul_two_pow a 1
  rw [pow_one, exact, mul_comm] at scaled
  exact scaled

/-- A weight in quarters makes a product in quarters. -/
theorem Denotes.weigh {w : Float} {b : Int} (weight : Denotes w (b * 2 ^ (-2 : Int)))
    (denotes : Denotes x a) (exact : nearest (b * a) = b * a) (small : (b * a).natAbs < 2 ^ 100) :
    Denotes (w * x) ((b * a : Int) * 2 ^ (-2 : Int)) := by
  have scaled : Denotes x (a * 2 ^ (0 : Int)) := by rwa [zpow_zero, mul_one]
  have product := weight.mul scaled (inside_of_lt small (by decide) (by decide))
  rwa [exact, add_zero] at product

theorem Denotes.step {y : Float} {b c : Int} (first : Denotes x (a * 2 ^ (-2 : Int)))
    (second : Denotes y (b * 2 ^ (-2 : Int))) (rounded : nearest (a + b) = c)
    (small : (a + b).natAbs < 2 ^ 100) : Denotes (x + y) (c * 2 ^ (-2 : Int)) :=
  rounded ▸ first.add second (inside_of_lt small (by decide) (by decide))

theorem sumOf_const (x : Float) (stencil : Stencil) :
    sumOf (fun _ => x) stencil =
      (stencil.map Prod.snd).foldl (fun sum weight => sum + weight * x) (-0.0) := by
  rw [List.foldl_map]
  rfl

/-- Weighing a constant over a quad gives the constant. -/
theorem denotes_sumOf_const (denotes : Denotes x a) (exact : nearest a = a)
    (small : a.natAbs < 2 ^ 66) {ids : List Nat} (eight : ids.length = Subdivision.quadCentre) :
    Denotes (sumOf (fun _ => x) (ids.zip Subdivision.quadWeights)) a := by
  have weights : (ids.zip Subdivision.quadWeights).map Prod.snd = Subdivision.quadWeights :=
    List.map_snd_zip (le_of_eq eight.symm)
  have twice := nearest_twice exact
  have fourfold := nearest_twice twice
  have off := natAbs_nearest_le (3 * a)
  have corner : Denotes (-0.25 * x) ((-a : Int) * 2 ^ (-2 : Int)) :=
    neg_one_mul a ▸ denotes_quarter.weigh denotes (by rw [neg_one_mul, nearest_neg, exact]) (by omega)
  have midside := denotes_half.weigh denotes twice (by omega)
  -- The sum in quarters, after each of the eight points.
  have one := (denotes_negativeZero (-2)).step (c := -a) corner
    (by rw [zero_add, nearest_neg, exact]) (by omega)
  have two := one.step (c := -(2 * a)) corner
    (by rw [← neg_add, ← two_mul, nearest_neg, twice]) (by omega)
  have three := two.step (c := -nearest (3 * a)) corner
    (by rw [show -(2 * a) + -a = -(3 * a) by ring, nearest_neg]) (by omega)
  have four := three.step (c := -(4 * a)) corner
    (by rw [← neg_add, nearest_neg, nearest_thrice exact]) (by omega)
  have five := four.step (c := -(2 * a)) midside
    (by rw [show -(4 * a) + 2 * a = -(2 * a) by ring, nearest_neg, twice]) (by omega)
  have six := five.step (c := 0) midside (by rw [neg_add_cancel]; rfl) (by omega)
  have seven := six.step (c := 2 * a) midside (by rw [zero_add, twice]) (by omega)
  have all := seven.step (c := 2 * (2 * a)) midside (by rw [← two_mul, fourfold]) (by omega)
  have whole : ((2 * (2 * a) : Int) : ℚ) * 2 ^ (-2 : Int) = a := by
    push_cast
    ring
  rw [whole] at all
  rw [sumOf_const, weights]
  exact all

end Sum

end Binary64

open Binary64

/-- What an integer becomes that is stored again after it was a float: the nearest one of 53 digits, as
far as it fits into 64 bits. -/
def settle (v : Int64) : Int64 :=
  Int64.ofInt (max Int64.minValue.toInt (min Int64.maxValue.toInt (nearest v.toInt)))

/-- Apart from the greatest, the integers that keep their value are those of 53 digits. -/
theorem settle_eq_self_iff (v : Int64) :
    settle v = v ↔ Short v.toInt ∨ v = Int64.maxValue := by
  have lowest : Int64.minValue.toInt = -2 ^ 63 := by decide
  have highest : Int64.maxValue.toInt = 2 ^ 63 - 1 := by decide
  have above := v.le_toInt
  have below := v.toInt_lt
  have settled : (settle v).toInt =
      max Int64.minValue.toInt (min Int64.maxValue.toInt (nearest v.toInt)) :=
    Int64.toInt_ofInt_of_le (by omega) (by omega)
  have least : v.toInt = -2 ^ 63 → nearest v.toInt = -2 ^ 63 := fun same => by
    rw [same]
    decide
  have greatest : v.toInt = 2 ^ 63 - 1 → nearest v.toInt = 2 ^ 63 := fun same => by
    rw [same]
    decide
  rw [← nearest_eq_self_iff, ← Int64.toInt_inj, ← Int64.toInt_inj, settled]
  omega

section Stored

variable {ids : List Nat} (eight : ids.length = Subdivision.quadCentre)

include eight

theorem ofFloat_sum_byte (v : UInt8) :
    Storage.byte.ofFloat (sumOf (fun _ => Storage.byte.toFloat v) (ids.zip Subdivision.quadWeights)) =
      v := by
  have small : (v.toNat : Int).natAbs < 2 ^ 8 := v.toNat_lt
  have exact : nearest v.toNat = v.toNat := nearest_of_lt (by omega)
  have denotes : Denotes (Storage.byte.toFloat v) (v.toNat : Int) := by
    have float := denotes_floatOfInt
      (inside_of_lt (n := v.toNat) (e := 0) (by omega) (by decide) (by decide))
    rwa [exact] at float
  have rounded := (denotes_sumOf_const denotes exact (by omega) eight).roundInto
    .awayFromZero 0 255
  show UInt8.ofNat (roundInto .awayFromZero 0 255 _).toNat = v
  have whole : (max (0 : Int) (min 255 v.toNat)).toNat = v.toNat := by omega
  rw [rounded, whole, UInt8.ofNat_toNat]

theorem ofFloat_sum_integer (v : Int64) :
    Storage.integer.ofFloat
        (sumOf (fun _ => Storage.integer.toFloat v) (ids.zip Subdivision.quadWeights)) =
      settle v := by
  have above := v.le_toInt
  have below := v.toInt_lt
  have near := natAbs_nearest_le v.toInt
  have denotes : Denotes (Storage.integer.toFloat v) (nearest v.toInt) :=
    denotes_floatOfInt (inside_of_lt (by omega) (by decide) (by decide))
  have rounded := (denotes_sumOf_const denotes
    (nearest_eq_self_iff.2 (short_nearest _)) (by omega) eight).roundInto
      .awayFromZero Int64.minValue.toInt Int64.maxValue.toInt
  exact congrArg Int64.ofInt rounded

end Stored

theorem Values.storage_of_value? {values : Values} {i : Nat} {scalar : Scalar}
    (read : values.value? i = some scalar) : values.storage = scalar.storage := by
  cases values <;> obtain ⟨value, _, rfl⟩ := Option.map_eq_some_iff.1 read <;> rfl

namespace Attribute

/-- At the centre of a quad a component has the value that it has at all points of the quad; an integer
of more than 53 digits becomes the nearest of 53 digits. -/
structure KeepsConstants (centre : Nat) (ids : List Nat) (original made : Attribute) : Prop where
  bytes : ∀ (k : Nat) (v : UInt8), (∀ id ∈ ids, original.component? id k = some (.byte v)) →
    made.component? centre k = some (.byte v)
  integers : ∀ (k : Nat) (v : Int64), (∀ id ∈ ids, original.component? id k = some (.integer v)) →
    made.component? centre k = some (.integer (settle v))
  unchanged : ∀ (k : Nat) (v : Int64), (∀ id ∈ ids, original.component? id k = some (.integer v)) →
    (made.component? centre k = some (.integer v) ↔
      Short v.toInt ∨ v = Int64.maxValue)

namespace Appended

variable {count j : Nat} {stencils : List Stencil} {original made : Attribute} {ids : List Nat}
  (appended : Appended count stencils original made)
  (listed : stencils[j]? = some (ids.zip Subdivision.quadWeights))
  (eight : ids.length = Subdivision.quadCentre)

include appended listed eight

theorem component?_const {k : Nat} {scalar : Scalar}
    (const : ∀ id ∈ ids, original.component? id k = some scalar) :
    made.component? (count + j) k =
      some (.ofSum (sumOf (fun _ => scalar.toFloat) (ids.zip Subdivision.quadWeights))
        scalar.storage) := by
  obtain ⟨id, member⟩ := List.exists_mem_of_length_pos (by rw [eight]; decide : 0 < ids.length)
  have read := const id member
  unfold component? at read
  split at read
  · rename_i inside
    obtain ⟨values, reads, new⟩ := appended.new j _ listed k inside
    have same : ∀ entry ∈ ids.zip Subdivision.quadWeights, (values entry.1).toFloat = scalar.toFloat :=
      fun entry member => congrArg Scalar.toFloat
        (Option.some.inj ((reads entry member).symm.trans (const _ (List.of_mem_zip member).1)))
    have sums : sumOf (fun point => (values point).toFloat) (ids.zip Subdivision.quadWeights) =
        sumOf (fun _ => scalar.toFloat) (ids.zip Subdivision.quadWeights) := sumOf_congr same
    rw [new, sums, Values.storage_of_value? read]
  · cases read

theorem component?_integer {k : Nat} {v : Int64}
    (const : ∀ id ∈ ids, original.component? id k = some (.integer v)) :
    made.component? (count + j) k = some (.integer (settle v)) := by
  rw [component?_const appended listed eight const]
  exact congrArg (some ∘ Scalar.integer) (ofFloat_sum_integer eight v)

theorem keepsConstants : KeepsConstants (count + j) ids original made where
  bytes k v const := by
    rw [component?_const appended listed eight const]
    exact congrArg (some ∘ Scalar.byte) (ofFloat_sum_byte eight v)
  integers k v const := component?_integer appended listed eight const
  unchanged k v const := by
    rw [component?_integer appended listed eight const, Option.some.injEq, Scalar.integer.injEq,
      settle_eq_self_iff]

end Appended
end Attribute
end MeshSkin
