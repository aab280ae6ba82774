import Mathlib.Data.Nat.Log
import Mathlib.Data.Rat.Cast.Order
import Mathlib.Tactic.Ring
import Mathlib.Tactic.NormNum
import Mathlib.Tactic.FieldSimp
import MeshSkin.Rounding

/-!
# Whole numbers of 53 binary digits

The nearest one to a whole number, with zeros behind its digits (`nearest`); it is the number itself
exactly if this has no more digits (`nearest_eq_self_iff`). It moves with the number under a change of
sign (`nearest_neg`) and of scale (`nearest_mul_two_pow`), so that two ways to write one value as a
whole number times a power of two have the same nearest value (`nearest_congr`).
-/

namespace MeshSkin

variable {tie : Tie} {m unit : Nat}

/-- A whole quotient is not rounded. -/
theorem roundQuotient_mul (q : Nat) (positive : 0 < unit) :
    roundQuotient tie (q * unit) unit = q := by
  simp only [roundQuotient, Nat.mul_mod_left, Nat.mul_zero, if_pos positive,
    Nat.mul_div_cancel _ positive]

theorem roundQuotient_mul_mul {c : Nat} (positive : 0 < c) :
    roundQuotient tie (m * c) (unit * c) = roundQuotient tie m unit := by
  have whole : m * c / (unit * c) = m / unit := Nat.mul_div_mul_right _ _ positive
  have twice : 2 * (m * c % (unit * c)) = 2 * (m % unit) * c := by
    rw [Nat.mul_mod_mul_right, Nat.mul_assoc]
  simp only [roundQuotient, whole, twice, Nat.mul_lt_mul_right positive]

/-- Rounding gives the whole part of a quotient or the next number. -/
theorem roundQuotient_cases (tie : Tie) (m unit : Nat) :
    roundQuotient tie m unit = m / unit ∨ roundQuotient tie m unit = m / unit + 1 := by
  simp only [roundQuotient]
  split
  · exact Or.inl rfl
  · split
    · exact Or.inr rfl
    · cases tie with
      | awayFromZero => exact Or.inr rfl
      | toEven =>
        rcases Nat.mod_two_eq_zero_or_one (m / unit) with even | odd
        · exact Or.inl (by simp only [even, Nat.add_zero])
        · exact Or.inr (by simp only [odd])

namespace Binary64

/-- The number of digits behind the first 53. -/
def excess (m : Nat) : Nat := m.log2 - 52

/-- The whole number of at most 53 binary digits, and zeros behind them, that is nearest to `m`. -/
def nearestNat (m : Nat) : Nat :=
  roundQuotient .toEven m (2 ^ excess m) * 2 ^ excess m

/-- The same with a sign. -/
def nearest (n : Int) : Int := n.sign * nearestNat n.natAbs

theorem nearestNat_eq {k : Nat} (full : k = 0 ∨ 2 ^ (52 + k) ≤ m) (small : m < 2 ^ (53 + k)) :
    nearestNat m = roundQuotient .toEven m (2 ^ k) * 2 ^ k := by
  have excess_eq : excess m = k := by
    unfold excess
    rcases Nat.eq_zero_or_pos m with rfl | positive
    · rcases full with rfl | full
      · rfl
      · exact absurd (Nat.le_zero.1 full) (Nat.pow_pos (by decide)).ne'
    · have upper := (Nat.log2_lt positive.ne').2 small
      rcases full with rfl | full
      · omega
      · have lower := (Nat.le_log2 positive.ne').2 full
        omega
  rw [nearestNat, excess_eq]

theorem log2_eq_add_excess (long : 52 ≤ m.log2) : m.log2 = 52 + excess m := by
  unfold excess
  omega

theorem excess_bounds (long : 52 ≤ m.log2) : 2 ^ (52 + excess m) ≤ m ∧ m < 2 ^ (53 + excess m) := by
  have digits := log2_eq_add_excess long
  have nonzero : m ≠ 0 := by
    rintro rfl
    exact absurd long (by decide)
  have bounds := (Nat.log2_eq_iff nonzero).1 digits
  exact ⟨bounds.1, Nat.add_right_comm 52 _ 1 ▸ bounds.2⟩

/-- Up to 53 digits nothing is rounded. -/
theorem nearestNat_of_lt (small : m < 2 ^ 53) : nearestNat m = m := by
  rw [nearestNat_eq (Or.inl rfl) small, Nat.pow_zero, roundQuotient_one, Nat.mul_one]

theorem nearestNat_le (m : Nat) : nearestNat m ≤ 2 * m := by
  have near := (roundQuotient_bounds .toEven m (Nat.pow_pos (n := excess m) (by decide : 0 < 2))).2
  by_cases short : m < 2 ^ 53
  · rw [nearestNat_of_lt short]
    omega
  · have unit_le : 2 ^ excess m ≤ m := by
      refine le_trans (Nat.pow_le_pow_right (by decide) (Nat.sub_le _ _)) (Nat.log2_self_le ?_)
      omega
    unfold nearestNat
    omega

/-- A quotient of 53 digits stays so when it is rounded, or becomes twice as large as the smallest. -/
theorem exists_digits (long : 52 ≤ m.log2) :
    ∃ r c, c ≤ 1 ∧ 2 ^ 52 ≤ r ∧ r < 2 ^ 53 ∧ roundQuotient .toEven m (2 ^ excess m) = r * 2 ^ c := by
  obtain ⟨low, high⟩ := excess_bounds long
  have positive : 0 < 2 ^ excess m := Nat.pow_pos (by decide)
  rw [Nat.pow_add] at low high
  have lower : 2 ^ 52 ≤ m / 2 ^ excess m := (Nat.le_div_iff_mul_le positive).2 low
  have upper : m / 2 ^ excess m < 2 ^ 53 := (Nat.div_lt_iff_lt_mul positive).2 high
  have near := roundQuotient_cases .toEven m (2 ^ excess m)
  by_cases carry : roundQuotient .toEven m (2 ^ excess m) = 2 ^ 53
  · exact ⟨2 ^ 52, 1, le_rfl, le_rfl, by decide, carry⟩
  · exact ⟨_, 0, Nat.zero_le 1, by omega, by omega, (Nat.mul_one _).symm⟩

/-- A rounded number has at most 53 digits before its zeros. -/
theorem exists_short (m : Nat) : ∃ r k, r < 2 ^ 53 ∧ nearestNat m = r * 2 ^ k := by
  by_cases small : m < 2 ^ 53
  · exact ⟨m, 0, small, by rw [nearestNat_of_lt small, Nat.pow_zero, Nat.mul_one]⟩
  · have long : 53 ≤ m.log2 := (Nat.le_log2 (by omega)).2 (Nat.le_of_not_lt small)
    obtain ⟨r, c, _, _, high, rounded⟩ := exists_digits (m := m) (by omega)
    exact ⟨r, c + excess m, high, by rw [nearestNat, rounded, Nat.pow_add, Nat.mul_assoc]⟩

theorem log2_mul_two_pow (positive : 0 < m) (t : Nat) : (m * 2 ^ t).log2 = m.log2 + t := by
  refine (Nat.log2_eq_iff (Nat.mul_pos positive (Nat.pow_pos (by decide))).ne').2 ⟨?_, ?_⟩
  · rw [Nat.pow_add]
    exact Nat.mul_le_mul_right _ (Nat.log2_self_le positive.ne')
  · rw [Nat.add_right_comm, Nat.pow_add]
    exact Nat.mul_lt_mul_of_pos_right Nat.lt_log2_self (Nat.pow_pos (by decide))

theorem nearestNat_mul_two_pow (m t : Nat) : nearestNat (m * 2 ^ t) = nearestNat m * 2 ^ t := by
  rcases Nat.eq_zero_or_pos m with rfl | positive
  · simp [nearestNat, roundQuotient]
  have digits := log2_mul_two_pow positive t
  by_cases long : 52 ≤ m.log2
  · have more : excess (m * 2 ^ t) = excess m + t := by
      unfold excess
      omega
    rw [nearestNat, more, Nat.pow_add, roundQuotient_mul_mul (Nat.pow_pos (by decide)), nearestNat,
      Nat.mul_assoc]
  · have short : m < 2 ^ 53 := (Nat.log2_lt positive.ne').1 (by omega)
    -- The digits that are dropped are among the zeros that were appended.
    have zeros : m * 2 ^ t = m * 2 ^ (t - excess (m * 2 ^ t)) * 2 ^ excess (m * 2 ^ t) := by
      have within : excess (m * 2 ^ t) ≤ t := by
        unfold excess
        omega
      rw [Nat.mul_assoc, ← Nat.pow_add, Nat.sub_add_cancel within]
    rw [nearestNat_of_lt short, nearestNat]
    conv_lhs => enter [1, 2]; rw [zeros]
    rw [roundQuotient_mul _ (Nat.pow_pos (by decide)), ← zeros]

@[simp] theorem nearest_natCast (m : Nat) : nearest m = nearestNat m := by
  rcases Nat.eq_zero_or_pos m with rfl | positive
  · rfl
  · rw [nearest, Int.natAbs_natCast, Int.sign_eq_one_of_pos (Int.natCast_pos.2 positive), one_mul]

@[simp] theorem nearest_neg (n : Int) : nearest (-n) = -nearest n := by
  rw [nearest, nearest, Int.sign_neg, Int.natAbs_neg, neg_mul]

theorem nearest_of_lt {n : Int} (small : n.natAbs < 2 ^ 53) : nearest n = n := by
  rw [nearest, nearestNat_of_lt small, Int.sign_mul_natAbs]

theorem natAbs_mul_two_pow (n : Int) (t : Nat) : (n * 2 ^ t).natAbs = n.natAbs * 2 ^ t := by
  rw [Int.natAbs_mul, Int.natAbs_pow]
  rfl

theorem nearest_mul_two_pow (n : Int) (t : Nat) : nearest (n * 2 ^ t) = nearest n * 2 ^ t := by
  have sign : ((2 : Int) ^ t).sign = 1 := Int.sign_eq_one_of_pos (pow_pos (by decide) t)
  rw [nearest, nearest, natAbs_mul_two_pow, Int.sign_mul, sign, nearestNat_mul_two_pow, mul_one,
    Nat.cast_mul, mul_assoc, Nat.cast_pow, Nat.cast_ofNat]

theorem natAbs_nearest_le (n : Int) : (nearest n).natAbs ≤ 2 * n.natAbs := by
  obtain ⟨m, rfl | rfl⟩ := n.eq_nat_or_neg
  · rw [nearest_natCast]
    exact nearestNat_le m
  · rw [nearest_neg, nearest_natCast, Int.natAbs_neg, Int.natAbs_neg]
    exact nearestNat_le m

/-- At most 53 binary digits, and zeros behind them. -/
def Short (n : Int) : Prop := ∃ (m : Int) (k : Nat), m.natAbs < 2 ^ 53 ∧ n = m * 2 ^ k

theorem short_nearest (n : Int) : Short (nearest n) := by
  obtain ⟨m, rfl | rfl⟩ := n.eq_nat_or_neg
  · obtain ⟨r, k, small, short⟩ := exists_short m
    exact ⟨r, k, small, by rw [nearest_natCast, short]; push_cast; rfl⟩
  · obtain ⟨r, k, small, short⟩ := exists_short m
    refine ⟨-r, k, by rwa [Int.natAbs_neg], ?_⟩
    rw [nearest_neg, nearest_natCast, short, neg_mul]
    push_cast
    rfl

theorem nearest_eq_self_iff {n : Int} : nearest n = n ↔ Short n := by
  constructor
  · intro exact
    exact exact ▸ short_nearest n
  · rintro ⟨m, k, small, rfl⟩
    rw [nearest_mul_two_pow, nearest_of_lt small]

section Scale

variable {a b e f : Int}

/-- Of two ways to write a value the one with the smaller exponent has the other number scaled. -/
theorem eq_mul_two_pow (same : (a : ℚ) * 2 ^ e = b * 2 ^ f) (le : e ≤ f) :
    a = b * 2 ^ (f - e).toNat := by
  have split : f = e + ((f - e).toNat : Int) := by omega
  rw [split, zpow_add₀ two_ne_zero, zpow_natCast, ← mul_assoc, mul_right_comm] at same
  have cancelled := mul_right_cancel₀ (zpow_ne_zero e two_ne_zero) same
  exact_mod_cast cancelled

theorem nearest_congr (same : (a : ℚ) * 2 ^ e = b * 2 ^ f) :
    (nearest a : ℚ) * 2 ^ e = nearest b * 2 ^ f := by
  wlog le : e ≤ f generalizing a b e f
  · exact (this same.symm (Int.le_of_not_le le)).symm
  have scaled := eq_mul_two_pow same le
  have split : f = e + ((f - e).toNat : Int) := by omega
  rw [scaled, nearest_mul_two_pow]
  conv_rhs => rw [split, zpow_add₀ two_ne_zero, zpow_natCast]
  push_cast
  ring

/-- The first digit of a value has a place for which there is a normal float. -/
def Inside (n e : Int) : Prop :=
  n = 0 ∨ (-1022 ≤ n.natAbs.log2 + e ∧ n.natAbs.log2 + e ≤ 1022)

theorem inside_congr (same : (a : ℚ) * 2 ^ e = b * 2 ^ f) : Inside a e ↔ Inside b f := by
  wlog le : e ≤ f generalizing a b e f
  · exact (this same.symm (Int.le_of_not_le le)).symm
  have scaled := eq_mul_two_pow same le
  rcases eq_or_ne b 0 with rfl | nonzero
  · rw [zero_mul] at scaled
    exact iff_of_true (Or.inl scaled) (Or.inl rfl)
  · have place : (a.natAbs.log2 : Int) + e = b.natAbs.log2 + f := by
      rw [scaled, natAbs_mul_two_pow, log2_mul_two_pow (Int.natAbs_pos.2 nonzero)]
      omega
    have other : a ≠ 0 := by
      rw [scaled]
      exact mul_ne_zero nonzero (pow_ne_zero _ two_ne_zero)
    rw [Inside, Inside, place, or_iff_right other, or_iff_right nonzero]

theorem inside_of_lt {n : Int} (small : n.natAbs < 2 ^ 100) (low : -100 ≤ e) (high : e ≤ 100) :
    Inside n e := by
  rcases eq_or_ne n 0 with zero | nonzero
  · exact Or.inl zero
  · have digits := (Nat.log2_lt (Int.natAbs_ne_zero.2 nonzero)).2 small
    exact Or.inr ⟨by omega, by omega⟩

end Scale
end Binary64
end MeshSkin
