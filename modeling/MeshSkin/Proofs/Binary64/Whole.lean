import Mathlib.Algebra.Order.Floor.Ring
import MeshSkin.Proofs.Binary64.Arithmetic

/-!
# Floats stored as whole numbers

A float that is stored as a whole number becomes the nearest one, halves going away from zero, and
then the nearest within the limits of the storage (`roundInto_eq_whole`).
-/

namespace MeshSkin.Binary64

open Float.Model Float.Model.UnpackedFloat

/-- The nearest whole number; a half goes away from zero. -/
def roundAway (q : ℚ) : Int := if 0 ≤ q then ⌊q + 1 / 2⌋ else ⌈q - 1 / 2⌉

theorem roundAway_neg (q : ℚ) : roundAway (-q) = -roundAway q := by
  unfold roundAway
  rcases lt_trichotomy q 0 with negative | rfl | positive
  · rw [if_pos (by linarith), if_neg (not_le.2 negative), ← Int.floor_neg]
    congr 1
    ring
  · norm_num
  · rw [if_neg (by linarith), if_pos positive.le, ← Int.ceil_neg]
    congr 1
    ring

/-- The quotient rounded by its remainder is the rational one rounded. -/
theorem roundQuotient_away (m : Nat) {unit : Nat} (positive : 0 < unit) :
    (roundQuotient .awayFromZero m unit : Int) = ⌊(m : ℚ) / unit + 1 / 2⌋ := by
  have split := Nat.div_add_mod m unit
  have small := Nat.mod_lt m positive
  have next : (m / unit + 1) * unit = m / unit * unit + unit := Nat.succ_mul _ _
  have bounds : 2 * (roundQuotient .awayFromZero m unit * unit) ≤ 2 * m + unit ∧
      2 * m + unit < 2 * (roundQuotient .awayFromZero m unit * unit) + 2 * unit := by
    rw [Nat.mul_comm] at split
    simp only [roundQuotient]
    split
    · omega
    · rw [ite_self]
      omega
  have scale : (0 : ℚ) < unit := by exact_mod_cast positive
  have twice : (m : ℚ) / unit + 1 / 2 = (2 * m + unit) / (2 * unit) := by
    field_simp
  obtain ⟨lower, upper⟩ := bounds
  qify at lower upper
  symm
  rw [twice, Int.floor_eq_iff, Int.cast_natCast, le_div_iff₀ (by positivity),
    div_lt_iff₀ (by positivity)]
  constructor <;> linarith

theorem roundScaled_away (m : Nat) (e : Int) :
    (roundScaled .awayFromZero m e : Int) = roundAway (m * 2 ^ e) := by
  have size : (0 : ℚ) ≤ m * 2 ^ e := by positivity
  rw [roundAway, if_pos size]
  cases e with
  | ofNat k =>
    have whole : (m : ℚ) * 2 ^ (Int.ofNat k) = (m * 2 ^ k : Nat) := by
      rw [Int.ofNat_eq_natCast, zpow_natCast]
      push_cast
      rfl
    have half : ⌊(1 / 2 : ℚ)⌋ = 0 := by norm_num
    rw [whole, Int.floor_natCast_add, half, add_zero]
    rfl
  | negSucc k =>
    have quotient : (m : ℚ) * 2 ^ (Int.negSucc k) = m / (2 ^ (k + 1) : Nat) := by
      rw [zpow_negSucc]
      push_cast
      rfl
    rw [quotient, ← roundQuotient_away m (Nat.pow_pos (by decide))]
    rfl

/-- A float as a whole number within limits. What is not a number counts as zero. -/
def whole (lo hi : Int) (x : Float) : Int :=
  match x.toModel.unpack with
  | .notANumber => 0
  | .infinity .negative => lo
  | .infinity .positive => hi
  | number => max lo (min hi (roundAway (value number)))

theorem roundInto_eq_whole (lo hi : Int) (x : Float) :
    roundInto .awayFromZero lo hi x = whole lo hi x := by
  unfold roundInto whole
  cases x.toModel.unpack with
  | notANumber => rfl
  | infinity sign => cases sign <;> rfl
  | zero sign =>
    have none : roundAway (value (.zero sign)) = 0 := by norm_num [roundAway, value]
    simp only [none]
  | finite sign m e positive =>
    cases sign with
    | positive =>
      simp only [roundScaled_away]
      rfl
    | negative =>
      have opposite : value (.finite .negative m e positive) = -(m * 2 ^ e) := by
        simp [value, Sign.apply]
      simp only [roundScaled_away, opposite, roundAway_neg]

/-- It keeps to the limits, if zero does. -/
theorem whole_bounds {lo hi : Int} (low : lo ≤ 0) (high : 0 ≤ hi) (x : Float) :
    lo ≤ whole lo hi x ∧ whole lo hi x ≤ hi := by
  unfold whole
  split <;> omega

end MeshSkin.Binary64
