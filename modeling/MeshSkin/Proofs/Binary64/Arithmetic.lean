import MeshSkin.Proofs.Binary64.Rounded

/-!
# Arithmetic on normal floats

A normal float can be packed into 64 bits and unpacked again (`unpack_pack`). Sums and products of
such floats are the exact values, rounded to the nearest number of 53 digits, as long as they stay
within range (`Denotes.add`, `Denotes.mul`).
-/

namespace MeshSkin.Binary64

open Float.Model Float.Model.UnpackedFloat

section Pack

theorem toNat_append_one (m : BitVec 52) : (1#1 ++ m).toNat = 2 ^ 52 + m.toNat := by
  rw [BitVec.toNat_append, ← Nat.shiftLeft_add_eq_or_of_lt m.isLt]
  simp [Nat.shiftLeft_eq]

theorem unpack_packComponents {sign : Sign} {biased m : Nat} (positive : 0 < biased)
    (finite : biased + 1 < 2 ^ 11) (low : 2 ^ 52 ≤ m) (high : m < 2 ^ 53) :
    unpack .binary64 (packComponents .binary64 sign (BitVec.ofNat 11 biased) (BitVec.ofNat 52 m)) =
      .finite sign m (biased - 1075) (Nat.lt_of_lt_of_le (by decide) low) := by
  have exponent : (BitVec.ofNat 11 biased).toNat = biased := by
    rw [BitVec.toNat_ofNat, Nat.mod_eq_of_lt (by omega)]
  have mantissa : (1#1 ++ BitVec.ofNat 52 m).toNat = m := by
    rw [toNat_append_one, BitVec.toNat_ofNat]
    omega
  have proper : BitVec.ofNat 11 biased ≠ -1#11 := by
    rw [ne_eq, ← BitVec.toNat_inj, exponent]
    show biased ≠ 2047
    omega
  have full : BitVec.ofNat 11 biased ≠ 0#11 := by
    rw [ne_eq, ← BitVec.toNat_inj, exponent]
    show biased ≠ 0
    omega
  have bias : ((Format.binary64.exponentBias : Int) + 52) = 1075 := rfl
  simp only [UnpackedFloat.unpack, unpackMantissa_packComponents, unpackExponent_packComponents,
    unpackSign_packComponents, proper, full, if_false, Sign.ofBitVec_toBitVec, exponent, mantissa,
    Nat.cast_ofNat, bias]

theorem unpack_pack {u : UnpackedFloat} (normal : Normal u) : (Float.Model.pack u).unpack = u := by
  cases u with
  | zero sign => exact unpack_packedZero
  | finite sign m e positive =>
    obtain ⟨low, high, small, large⟩ := normal
    have digits : m.log2 + 1 = Format.binary64.mantissaBits := by
      rw [(Nat.log2_eq_iff positive.ne').2 ⟨low, high⟩]
      rfl
    have bias : Format.binary64.exponentBias = 1023 := rfl
    have fits : ¬ 2 ^ 11 ≤ (e + 1023 + 52).toNat + 1 := by omega
    show unpack .binary64 (UnpackedFloat.pack .binary64 (.finite sign m e positive)) = _
    simp only [UnpackedFloat.pack, bias, Nat.cast_ofNat, fits, digits, if_false, if_true]
    rw [unpack_packComponents (by omega) (by omega) low high]
    congr 1
    omega
  | infinity => exact normal.elim
  | notANumber => exact normal.elim

end Pack

section Operations

variable {u v : UnpackedFloat} {a b e f : Int}

theorem eq_zero_of_value (same : (0 : ℚ) = a * 2 ^ e) : a = 0 := by
  have factors := mul_eq_zero.1 same.symm
  exact_mod_cast factors.resolve_right (zpow_ne_zero e two_ne_zero)

/-- What a normal float stands for is not rounded again. -/
theorem Stands.nearest_eq (stands : Stands u (a * 2 ^ e)) :
    (nearest a : ℚ) * 2 ^ e = a * 2 ^ e := by
  obtain ⟨normal, same⟩ := stands
  cases u with
  | zero sign =>
    obtain rfl := eq_zero_of_value same
    rfl
  | finite sign m exponent positive =>
    rw [← nearest_congr same, nearest_apply, nearestNat_of_lt normal.2.1]
    exact same
  | infinity => exact normal.elim
  | notANumber => exact normal.elim

theorem decreaseExponent_value (sign : Sign) (m : Nat) {low : Int} (le : low ≤ e) :
    (sign.apply (decreaseExponent m e low).1 : ℚ) * 2 ^ low = sign.apply m * 2 ^ e := by
  have split : e = low + ((e - low).toNat : Int) := by omega
  rw [decreaseExponent, Nat.shiftLeft_eq, Nat.cast_mul, apply_mul]
  conv_rhs => rw [split, zpow_add₀ two_ne_zero, zpow_natCast]
  push_cast
  ring

theorem add_spec (first : Stands u (a * 2 ^ e)) (second : Stands v (b * 2 ^ e))
    (inside : Inside (a + b) e) :
    Stands (UnpackedFloat.add .binary64 u v) (nearest (a + b) * 2 ^ e) := by
  obtain ⟨normal, same⟩ := first
  obtain ⟨other, also⟩ := second
  cases u with
  | infinity | notANumber => exact normal.elim
  | zero sign =>
    obtain rfl := eq_zero_of_value same
    rw [zero_add, Stands.nearest_eq ⟨other, also⟩]
    cases v with
    | infinity | notANumber => exact other.elim
    | zero sign' =>
      rw [UnpackedFloat.add]
      split <;> exact ⟨trivial, also⟩
    | finite => exact ⟨other, also⟩
  | finite sign m exponent positive =>
    cases v with
    | infinity | notANumber => exact other.elim
    | zero sign' =>
      obtain rfl := eq_zero_of_value also
      rw [add_zero, Stands.nearest_eq ⟨normal, same⟩]
      exact ⟨normal, same⟩
    | finite sign' m' exponent' positive' =>
      -- Both mantissas are brought to the smaller exponent.
      have total : ((sign.apply (decreaseExponent m exponent (min exponent exponent')).1 +
          sign'.apply (decreaseExponent m' exponent' (min exponent exponent')).1 : Int) : ℚ) *
            2 ^ min exponent exponent' = (a + b : Int) * 2 ^ e := by
        push_cast
        rw [add_mul, add_mul, decreaseExponent_value _ _ (min_le_left _ _),
          decreaseExponent_value _ _ (min_le_right _ _), ← same, ← also]
        rfl
      rw [← nearest_congr total]
      exact normalize_spec ((inside_congr total).2 inside) .positive

@[simp] theorem apply_mul_apply (sign other : Sign) (a b : Int) :
    (sign * other).apply (a * b) = sign.apply a * other.apply b := by
  cases sign <;> cases other
  · exact (neg_mul_neg a b).symm
  · exact (neg_mul a b).symm
  · exact (mul_neg a b).symm
  · rfl

theorem mul_spec (first : Stands u (a * 2 ^ e)) (second : Stands v (b * 2 ^ f))
    (inside : Inside (a * b) (e + f)) :
    Stands (UnpackedFloat.mul .binary64 u v) (nearest (a * b) * 2 ^ (e + f)) := by
  obtain ⟨normal, same⟩ := first
  obtain ⟨other, also⟩ := second
  cases u with
  | infinity | notANumber => exact normal.elim
  | zero sign =>
    obtain rfl := eq_zero_of_value same
    rw [zero_mul]
    cases v with
    | infinity | notANumber => exact other.elim
    | zero sign' | finite sign' => exact ⟨trivial, by simp [UnpackedFloat.mul, value, nearest]⟩
  | finite sign m exponent positive =>
    cases v with
    | infinity | notANumber => exact other.elim
    | zero sign' =>
      obtain rfl := eq_zero_of_value also
      exact ⟨trivial, by simp [UnpackedFloat.mul, value, nearest]⟩
    | finite sign' m' exponent' positive' =>
      have product : (((sign * sign').apply (m * m' : Nat) : Int) : ℚ) * 2 ^ (exponent + exponent') =
          (a * b : Int) * 2 ^ (e + f) := by
        rw [Nat.cast_mul, apply_mul_apply, zpow_add₀ two_ne_zero, zpow_add₀ two_ne_zero, Int.cast_mul,
          Int.cast_mul, mul_mul_mul_comm, mul_mul_mul_comm (a : ℚ), ← same, ← also]
        rfl
      have long : 2 ^ 52 ≤ m * m' := le_trans normal.1 (Nat.le_mul_of_pos_right m positive')
      have nonzero : m * m' ≠ 0 := (Nat.mul_pos positive positive').ne'
      exact roundWithAccuracy_of_value ((Nat.le_log2 nonzero).2 long) product inside

end Operations

/-- A float of the given value. -/
def Denotes (x : Float) (q : ℚ) : Prop := Stands x.toModel.unpack q

section Floats

variable {x y : Float} {a b e f : Int}

/-- The sum is the exact one, rounded. -/
theorem Denotes.add (first : Denotes x (a * 2 ^ e)) (second : Denotes y (b * 2 ^ e))
    (inside : Inside (a + b) e) : Denotes (x + y) (nearest (a + b) * 2 ^ e) := by
  have stands := add_spec first second inside
  have unpacked : (x + y).toModel.unpack = _ := unpack_pack stands.normal
  rwa [Denotes, unpacked]

/-- The product is the exact one, rounded. -/
theorem Denotes.mul (first : Denotes x (a * 2 ^ e)) (second : Denotes y (b * 2 ^ f))
    (inside : Inside (a * b) (e + f)) : Denotes (x * y) (nearest (a * b) * 2 ^ (e + f)) := by
  have stands := mul_spec first second inside
  have unpacked : (x * y).toModel.unpack = _ := unpack_pack stands.normal
  rwa [Denotes, unpacked]

theorem denotes_floatOfInt {n : Int} (inside : Inside n 0) : Denotes (floatOfInt n) (nearest n) := by
  have stands := normalize_spec inside .positive
  have unpacked : (floatOfInt n).toModel.unpack = _ := unpack_pack stands.normal
  rw [zpow_zero, mul_one] at stands
  rwa [Denotes, unpacked]

theorem roundScaled_eq {tie : Tie} {m whole : Nat} {e : Int} (same : (m : ℚ) * 2 ^ e = whole) :
    roundScaled tie m e = whole := by
  cases e with
  | ofNat k =>
    rw [Int.ofNat_eq_natCast, zpow_natCast] at same
    exact_mod_cast same
  | negSucc k =>
    rw [zpow_negSucc] at same
    have scaled : (m : ℚ) = whole * 2 ^ (k + 1) := by
      rw [← same]
      field_simp
    have exact : m = whole * 2 ^ (k + 1) := by exact_mod_cast scaled
    rw [roundScaled, exact]
    exact roundQuotient_mul _ (Nat.pow_pos (by decide))

theorem eq_apply_of_value {sign : Sign} {m : Nat} {n : Int}
    (same : (sign.apply m : ℚ) * 2 ^ e = n) :
    (m : ℚ) * 2 ^ e = n.natAbs ∧ n = sign.apply n.natAbs := by
  have size : 0 ≤ (m : ℚ) * 2 ^ e := by positivity
  cases sign with
  | negative =>
    have opposite : (m : ℚ) * 2 ^ e = (-n : Int) := by
      rw [Int.cast_neg, ← same]
      simp [Sign.apply]
    have sign_eq : 0 ≤ -n := by exact_mod_cast opposite ▸ size
    have abs : (n.natAbs : Int) = -n := by omega
    exact ⟨by rw [opposite, ← Int.cast_natCast n.natAbs, abs], by show n = -(n.natAbs : Int); omega⟩
  | positive =>
    have equal : (m : ℚ) * 2 ^ e = n := same
    have sign_eq : 0 ≤ n := by exact_mod_cast equal ▸ size
    have abs : (n.natAbs : Int) = n := by omega
    exact ⟨by rw [equal, ← Int.cast_natCast, abs], abs.symm⟩

/-- A float that is a whole number becomes this number, as far as the range allows. -/
theorem Denotes.roundInto {n : Int} (denotes : Denotes x n) (tie : Tie) (lo hi : Int) :
    roundInto tie lo hi x = max lo (min hi n) := by
  obtain ⟨normal, same⟩ := denotes
  unfold MeshSkin.roundInto
  cases unpacked : x.toModel.unpack with
  | infinity | notANumber =>
    rw [unpacked] at normal
    exact normal.elim
  | zero sign =>
    rw [unpacked] at same
    have nothing : (0 : ℚ) = n := same
    have zero : n = 0 := by exact_mod_cast nothing.symm
    rw [zero]
  | finite sign m e positive =>
    rw [unpacked] at same
    obtain ⟨whole, signed⟩ := eq_apply_of_value same
    have rounded : roundScaled tie m e = n.natAbs := roundScaled_eq whole
    cases sign with
    | negative =>
      have opposite : n = -(n.natAbs : Int) := signed
      simp only [rounded, ← opposite]
    | positive =>
      have equal : n = n.natAbs := signed
      simp only [rounded, ← equal]

end Floats

end MeshSkin.Binary64
