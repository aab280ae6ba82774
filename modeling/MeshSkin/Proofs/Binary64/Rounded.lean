import Mathlib
import MeshSkin.Proofs.Binary64.Nearest

/-!
# Rounding to 53 digits

A mantissa that is too long is shifted to the right digit by digit, with two bits to remember what
went off. The bits say where the mantissa lies between two whole quotients (`Remembers`), so that
what is rounded in the end is the quotient by the whole unit (`roundedMantissa_shiftRight`). Hence a
value within range becomes a normal float, that of the nearest number of 53 digits
(`normalize_spec`).
-/

namespace MeshSkin.Binary64

open Float.Model Float.Model.UnpackedFloat

/-- The quotient of a mantissa by a unit, and where the rest lies in the unit. -/
structure Remembers (shifted : ExtendedMantissa) (m unit : Nat) : Prop where
  quotient : shifted.mantissa = m / unit
  half : shifted.roundBit = decide (unit ≤ 2 * (m % unit))
  between : shifted.stickyBit = decide (2 * (m % unit) ≠ 0 ∧ 2 * (m % unit) ≠ unit)

section Shift

variable {shifted : ExtendedMantissa} {m unit : Nat}

theorem Remembers.shiftRightOne (remembers : Remembers shifted m unit) (positive : 0 < unit) :
    Remembers shifted.shiftRightOne m (unit * 2) := by
  have rest : m % (unit * 2) = m % unit + unit * (m / unit % 2) := Nat.mod_mul
  have small := Nat.mod_lt m positive
  have bit := Nat.mod_two_eq_zero_or_one (m / unit)
  refine ⟨?_, ?_, ?_⟩
  · rw [ExtendedMantissa.shiftRightOne, remembers.quotient, Nat.div_div_eq_div_mul]
  · rw [ExtendedMantissa.shiftRightOne, remembers.quotient, rest]
    rcases bit with even | odd
    · simp [even]
      omega
    · simp [odd]
      omega
  · rw [ExtendedMantissa.shiftRightOne, remembers.half, remembers.between, rest, Bool.eq_iff_iff]
    rcases bit with even | odd
    · simp [even]
      omega
    · simp [odd]
      omega

theorem remembers_shiftRight (m k : Nat) :
    Remembers (ExtendedMantissa.mk m false false >>> k) m (2 ^ k) := by
  induction k with
  | zero =>
    refine ⟨(Nat.div_one m).symm, ?_, ?_⟩ <;> rw [Nat.pow_zero, Nat.mod_one] <;> rfl
  | succ k ih => exact ih.shiftRightOne (Nat.pow_pos (by decide))

theorem Remembers.roundedMantissa (remembers : Remembers shifted m unit) :
    shifted.roundedMantissa = roundQuotient .toEven m unit := by
  obtain ⟨mantissa, half, sticky⟩ := shifted
  obtain ⟨rfl, above, between⟩ := remembers
  cases half with
  | false =>
    have below : 2 * (m % unit) < unit := by simpa using above
    rw [roundQuotient, if_pos below]
    cases sticky <;> rfl
  | true =>
    have reached : unit ≤ 2 * (m % unit) := by simpa using above
    rw [roundQuotient, if_neg (Nat.not_lt.2 reached)]
    cases sticky with
    | false =>
      have rest := of_decide_eq_false between.symm
      have tie : ¬ unit < 2 * (m % unit) := by omega
      rw [if_neg tie]
      rfl
    | true =>
      have rest := of_decide_eq_true between.symm
      have passed : unit < 2 * (m % unit) := by omega
      rw [if_pos passed]
      rfl

end Shift

/-- A zero, or a number of exactly 53 digits whose exponent fits. -/
def Normal : UnpackedFloat → Prop
  | .zero _ => True
  | .finite _ m e _ => 2 ^ 52 ≤ m ∧ m < 2 ^ 53 ∧ -1074 ≤ e ∧ e ≤ 971
  | _ => False

/-- What a zero or a finite number stands for. -/
def value : UnpackedFloat → ℚ
  | .finite sign m e _ => sign.apply m * 2 ^ e
  | _ => 0

/-- A normal float with a given value. -/
structure Stands (u : UnpackedFloat) (q : ℚ) : Prop where
  normal : Normal u
  value_eq : value u = q

@[simp] theorem apply_mul (sign : Sign) (a b : Int) : sign.apply (a * b) = sign.apply a * b := by
  cases sign with
  | negative => exact (Int.neg_mul a b).symm
  | positive => rfl

@[simp] theorem natAbs_apply (sign : Sign) (m : Nat) : (sign.apply m).natAbs = m := by
  cases sign with
  | negative => exact (Int.natAbs_neg m).trans (Int.natAbs_natCast m)
  | positive => exact Int.natAbs_natCast m

section Round

variable {sign : Sign} {m k : Nat} {e : Int}

theorem shiftToTargetExponent_eq (digits : m.log2 = 52 + k) (small : -1074 ≤ e + k) :
    shiftToTargetExponent .binary64 m e .exact =
      (ExtendedMantissa.mk m false false >>> k, e + k) := by
  have target : Format.binary64.targetExponent (totalExponent m e) = e + k := by
    show max ((m.log2 : Int) + 1 + e - 53) (-1074) = e + k
    omega
  have amount : (e + k - e).toNat = k := by omega
  rw [shiftToTargetExponent, shiftToExponent, target, amount]
  rfl

theorem roundWithAccuracy_spec (long : 52 ≤ m.log2) (small : -1022 ≤ m.log2 + e)
    (large : m.log2 + e ≤ 1022) :
    Stands (roundWithAccuracy .binary64 sign m e .exact) (sign.apply (nearestNat m) * 2 ^ e) := by
  have digits := log2_eq_add_excess long
  obtain ⟨r, c, once, lower, upper, rounded⟩ := exists_digits long
  have again : (r * 2 ^ c).log2 = 52 + c := by
    rw [log2_mul_two_pow (by omega), (Nat.log2_eq_iff (by omega)).2 ⟨lower, upper⟩]
  have first : (ExtendedMantissa.mk m false false >>> excess m).roundedMantissa = r * 2 ^ c :=
    (remembers_shiftRight m (excess m)).roundedMantissa.trans rounded
  have last : (ExtendedMantissa.mk (r * 2 ^ c) false false >>> c).mantissa = r :=
    (remembers_shiftRight _ c).quotient.trans (Nat.mul_div_cancel _ (Nat.pow_pos (by decide)))
  have nonzero : r ≠ 0 := by omega
  have start : -1074 ≤ e + excess m := by omega
  have next : -1074 ≤ e + excess m + (c : Int) := by omega
  have made : roundWithAccuracy .binary64 sign m e .exact =
      .finite sign r (e + excess m + c) (Nat.pos_of_ne_zero nonzero) := by
    simp only [roundWithAccuracy, shiftToTargetExponent_eq digits start, first,
      shiftToTargetExponent_eq again next, last, dif_neg nonzero]
  rw [made]
  refine ⟨⟨lower, upper, by omega, by omega⟩, ?_⟩
  rw [nearestNat, rounded]
  simp only [value, Nat.cast_mul, apply_mul, zpow_add₀ (two_ne_zero (α := ℚ)), zpow_natCast]
  push_cast
  ring

theorem round_spec (positive : 0 < m) (small : -1022 ≤ m.log2 + e) (large : m.log2 + e ≤ 1022) :
    Stands (UnpackedFloat.round .binary64 sign m e) (sign.apply (nearestNat m) * 2 ^ e) := by
  have target : Format.binary64.targetExponent (totalExponent m e) = m.log2 + e - 52 := by
    show max ((m.log2 : Int) + 1 + e - 53) (-1074) = m.log2 + e - 52
    omega
  have amount : (e - (m.log2 + e - 52)).toNat = 52 - m.log2 := by omega
  have made : UnpackedFloat.round .binary64 sign m e =
      roundWithAccuracy .binary64 sign (m * 2 ^ (52 - m.log2)) (e - (52 - m.log2 : Nat)) .exact := by
    simp only [UnpackedFloat.round, decreaseExponent, target, amount, Nat.shiftLeft_eq]
  have digits := log2_mul_two_pow positive (52 - m.log2)
  have scaled : (sign.apply (nearestNat (m * 2 ^ (52 - m.log2))) : ℚ) * 2 ^ (e - (52 - m.log2 : Nat)) =
      sign.apply (nearestNat m) * 2 ^ e := by
    rw [nearestNat_mul_two_pow, Nat.cast_mul, apply_mul, zpow_sub₀ two_ne_zero, zpow_natCast]
    push_cast
    field_simp
  rw [made, ← scaled]
  exact roundWithAccuracy_spec (by omega) (by omega) (by omega)

end Round

theorem nearest_apply (sign : Sign) (m : Nat) : nearest (sign.apply m) = sign.apply (nearestNat m) := by
  cases sign with
  | negative => exact (nearest_neg m).trans (congrArg Neg.neg (nearest_natCast m))
  | positive => exact nearest_natCast m

/-- A long mantissa is rounded to the nearest value, in whatever way the value is written. -/
theorem roundWithAccuracy_of_value {sign : Sign} {m : Nat} {exponent a e : Int} (long : 52 ≤ m.log2)
    (same : (sign.apply m : ℚ) * 2 ^ exponent = a * 2 ^ e) (inside : Inside a e) :
    Stands (roundWithAccuracy .binary64 sign m exponent .exact) (nearest a * 2 ^ e) := by
  have nonzero : sign.apply m ≠ 0 := by
    rw [← Int.natAbs_ne_zero, natAbs_apply]
    rintro rfl
    exact absurd long (by decide)
  have range := (inside_congr same).2 inside
  rw [Inside, natAbs_apply, or_iff_right nonzero] at range
  rw [← nearest_congr same, nearest_apply]
  exact roundWithAccuracy_spec long range.1 range.2

theorem normalize_eq_round {n : Int} (nonzero : n ≠ 0) (e : Int) (zeroSign : Sign) :
    ∃ sign, sign.apply n.natAbs = n ∧
      UnpackedFloat.normalize .binary64 n e zeroSign =
        UnpackedFloat.round .binary64 sign n.natAbs e := by
  rcases lt_or_gt_of_ne nonzero with negative | positive
  · refine ⟨.negative, ?_, ?_⟩
    · show -(n.natAbs : Int) = n
      omega
    · have abs : (-n).toNat = n.natAbs := by omega
      simp only [UnpackedFloat.normalize, compare_lt_iff_lt.2 negative, abs]
  · refine ⟨.positive, ?_, ?_⟩
    · show (n.natAbs : Int) = n
      omega
    · have abs : n.toNat = n.natAbs := by omega
      simp only [UnpackedFloat.normalize, compare_gt_iff_gt.2 positive, abs]

/-- What is within range is rounded to the nearest number of 53 digits. -/
theorem normalize_spec {n e : Int} (inside : Inside n e) (zeroSign : Sign) :
    Stands (UnpackedFloat.normalize .binary64 n e zeroSign) (nearest n * 2 ^ e) := by
  rcases eq_or_ne n 0 with rfl | nonzero
  · exact ⟨trivial, by simp [value, nearest, UnpackedFloat.normalize]⟩
  · obtain ⟨small, large⟩ := inside.resolve_left nonzero
    obtain ⟨sign, signed, made⟩ := normalize_eq_round nonzero e zeroSign
    have rounded : nearest n = sign.apply (nearestNat n.natAbs) := by rw [← nearest_apply, signed]
    rw [made, rounded]
    exact round_spec (Int.natAbs_pos.2 nonzero) small large

end MeshSkin.Binary64
