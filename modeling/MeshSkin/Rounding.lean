/-!
# Whole numbers and floats

A finite float is exactly a sign, a mantissa and a power of two. This module
rounds that exact value to a whole number under a stated rule for ties, moves the
result into a storage range, and goes back from whole numbers to floats.
-/

namespace MeshSkin

/-- Where a value halfway between two whole numbers goes. -/
inductive Tie where
  | awayFromZero
  | toEven
  deriving DecidableEq, Repr

/-- The whole number nearest to `m / unit`. -/
def roundQuotient (tie : Tie) (m unit : Nat) : Nat :=
  let whole := m / unit
  let twice := 2 * (m % unit)
  if twice < unit then whole
  else if unit < twice then whole + 1
  else match tie with
    | .awayFromZero => whole + 1
    | .toEven => whole + whole % 2

/-- The whole number nearest to `m * 2 ^ e`. -/
def roundScaled (tie : Tie) (m : Nat) : Int → Nat
  | .ofNat k => m * Nat.pow 2 k
  | .negSucc k => roundQuotient tie m (Nat.pow 2 (k + 1))

/-- The whole number of `lo..hi` nearest to `x`; zero when `x` is not a number. -/
def roundInto (tie : Tie) (lo hi : Int) (x : Float) : Int :=
  match x.toModel.unpack with
  | .notANumber => 0
  | .infinity .negative => lo
  | .infinity .positive => hi
  | .zero _ => max lo (min hi 0)
  | .finite .negative m e _ => max lo (min hi (-(roundScaled tie m e : Int)))
  | .finite .positive m e _ => max lo (min hi (roundScaled tie m e))

/-- The float nearest to a whole number, a tie going to the even mantissa. -/
def floatOfInt (n : Int) : Float := Float.ofModel (Float.Model.ofInt n)

theorem roundQuotient_one (tie : Tie) (m : Nat) : roundQuotient tie m 1 = m := by
  simp [roundQuotient, Nat.mod_one]

/-- Rounding moves a quotient by at most one half. -/
theorem roundQuotient_bounds (tie : Tie) (m : Nat) {unit : Nat} (positive : 0 < unit) :
    2 * m ≤ 2 * (roundQuotient tie m unit * unit) + unit ∧
      2 * (roundQuotient tie m unit * unit) ≤ 2 * m + unit := by
  have split := Nat.div_add_mod m unit
  have small := Nat.mod_lt m positive
  rw [Nat.mul_comm] at split
  simp only [roundQuotient]
  split
  · omega
  · have step : (m / unit + 1) * unit = m / unit * unit + unit := by
      rw [Nat.add_mul, Nat.one_mul]
    split
    · omega
    · cases tie with
      | awayFromZero => simp only; omega
      | toEven =>
        rcases Nat.mod_two_eq_zero_or_one (m / unit) with even | odd
        · simp only [even, Nat.add_zero]; omega
        · simp only [odd]; omega

end MeshSkin
