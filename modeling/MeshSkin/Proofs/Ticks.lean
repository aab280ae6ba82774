import Mathlib.Algebra.Order.Floor.Div
import Mathlib.Data.List.Sort
import MeshSkin.Progress

/-!
# Ticks of a cadence

A cadence ticks at the multiples of its interval, and at no other cell. In a pass over `numCells`
cells these are the first `numTicks` multiples (`Cadence.filter_ticksAt_range`): no more than the
divisions, and one at every cell if there are fewer cells than divisions. The interval is always
longer than the quotient, which costs ticks, but no more than half of the divisions
(`Cadence.divisions_le_two_mul_numTicks`).
-/

namespace MeshSkin.Cadence

variable {cadence : Cadence} {numCells : Nat}

/-- How often a pass over that many cells ticks. -/
def numTicks (cadence : Cadence) (numCells : Nat) : Nat := numCells ⌈/⌉ cadence.interval numCells

/-- What is reported at a tick; the ticks count from zero. -/
def reportAt (cadence : Cadence) (numCells tick : Nat) : Progress :=
  ⟨tick * cadence.interval numCells, numCells⟩

theorem ticksAt_iff {cell : Nat} :
    cadence.ticksAt numCells cell = true ↔ cadence.interval numCells ∣ cell := by
  rw [ticksAt, beq_iff_eq, Nat.dvd_iff_mod_eq_zero]

theorem ticksAt_mul (tick : Nat) :
    cadence.ticksAt numCells (tick * cadence.interval numCells) = true :=
  ticksAt_iff.2 (Nat.dvd_mul_left _ _)

/-- The ticks are the multiples of the interval below the number of cells. -/
theorem lt_numTicks_iff {tick : Nat} :
    tick < cadence.numTicks numCells ↔ tick * cadence.interval numCells < numCells := by
  rw [← not_le, numTicks, ceilDiv_le_iff_le_mul (cadence.interval_pos numCells), not_le,
    Nat.mul_comm]

/-- The cells before a place at which there is a tick, if that many multiples of the interval come
before it. Both lists increase, so it is enough that they have the same members. -/
theorem filter_ticksAt_range {cells count : Nat}
    (counts : ∀ tick, tick < count ↔ tick * cadence.interval numCells < cells) :
    (List.range cells).filter (cadence.ticksAt numCells) =
      (List.range count).map (· * cadence.interval numCells) := by
  have positive := cadence.interval_pos numCells
  have increasing : ((List.range count).map (· * cadence.interval numCells)).Pairwise (· < ·) := by
    rw [List.pairwise_map]
    exact List.pairwise_lt_range.imp fun early => Nat.mul_lt_mul_of_pos_right early positive
  refine (List.pairwise_lt_range.filter _).eq_of_mem_iff increasing fun cell => ?_
  simp only [List.mem_filter, List.mem_map, List.mem_range, ticksAt_iff, counts]
  constructor
  · intro given
    obtain ⟨bound, tick, rfl⟩ := given
    rw [Nat.mul_comm] at bound
    exact ⟨tick, bound, Nat.mul_comm _ _⟩
  · intro given
    obtain ⟨tick, bound, rfl⟩ := given
    exact ⟨bound, Nat.dvd_mul_left _ _⟩

/-- Before a tick there are as many ticks as its number says. -/
theorem filter_ticksAt_range_mul (tick : Nat) :
    (List.range (tick * cadence.interval numCells)).filter (cadence.ticksAt numCells) =
      (List.range tick).map (· * cadence.interval numCells) :=
  filter_ticksAt_range fun _ =>
    (Nat.mul_lt_mul_right (cadence.interval_pos numCells)).symm

/-- A pass is reported in no more parts than it is divided into. -/
theorem numTicks_le_divisions : cadence.numTicks numCells ≤ cadence.divisions := by
  have covered : numCells < cadence.divisions * cadence.interval numCells :=
    Nat.lt_mul_div_succ numCells cadence.divisions_pos
  rw [← not_lt, lt_numTicks_iff]
  omega

/-- Fewer cells than divisions are reported one by one. -/
theorem numTicks_eq_numCells (few : numCells < cadence.divisions) :
    cadence.numTicks numCells = numCells := by
  have single : cadence.interval numCells = 1 := by
    rw [interval, Nat.div_eq_of_lt few]
  refine eq_of_forall_lt_iff fun tick => ?_
  rw [lt_numTicks_iff, single, Nat.mul_one]

/-- If there are as many cells as divisions, at least half of the divisions tick: the quotient that
the interval rounds up is not zero, so that the interval is at most its double. -/
theorem divisions_le_two_mul_numTicks (enough : cadence.divisions ≤ numCells) :
    cadence.divisions ≤ 2 * cadence.numTicks numCells := by
  have quotient_pos : 0 < numCells / cadence.divisions := Nat.div_pos enough cadence.divisions_pos
  have covered : numCells ≤ cadence.numTicks numCells * cadence.interval numCells := by
    rw [← not_lt, ← lt_numTicks_iff]
    exact lt_irrefl _
  refine Nat.le_of_mul_le_mul_right ?_ quotient_pos
  calc cadence.divisions * (numCells / cadence.divisions)
      ≤ numCells := Nat.mul_div_le _ _
    _ ≤ cadence.numTicks numCells * cadence.interval numCells := covered
    _ ≤ cadence.numTicks numCells * (2 * (numCells / cadence.divisions)) :=
        Nat.mul_le_mul_left _ (by rw [interval]; omega)
    _ = 2 * cadence.numTicks numCells * (numCells / cadence.divisions) := by
        rw [Nat.mul_left_comm, Nat.mul_assoc]

-- As many cells as divisions are the worst case: the interval is two, and half of the divisions tick.
example : numTicks ⟨4, by decide⟩ 4 = 2 := by decide

end MeshSkin.Cadence
