import Mathlib.Logic.Basic
import MeshSkin.Options

/-!
# Boxes and the points outside

Of two numbers one does not exceed the other. A point with finite coordinates is therefore outside
a well-formed box exactly if one of its coordinates lies below the lower or above the upper bound
(`Box.not_holds_iff`); infinite bounds are numbers.
-/

namespace MeshSkin

section Comparison

open Float.Model

/-- Comparing the other way round turns the answer around. -/
theorem compare_eq_map_swap (a b : UnpackedFloat) :
    a.compare b = (b.compare a).map Ordering.swap := by
  cases a with
  | notANumber => cases b <;> rfl
  | infinity s =>
    cases b with
    | notANumber => cases s <;> rfl
    | infinity t => cases s <;> cases t <;> rfl
    | zero t => cases s <;> rfl
    | finite t m e pos => cases s <;> cases t <;> rfl
  | zero s =>
    cases b with
    | notANumber => rfl
    | infinity t => cases t <;> rfl
    | zero t => rfl
    | finite t m e pos => cases t <;> rfl
  | finite s m e pos =>
    cases b with
    | notANumber => cases s <;> rfl
    | infinity t => cases s <;> cases t <;> rfl
    | zero t => cases s <;> rfl
    | finite t n f pos =>
      have turned : (compare e f).then (compare m n) =
          ((compare f e).then (compare n m)).swap := by
        rw [Ordering.swap_then, ← Std.OrientedCmp.eq_swap, ← Std.OrientedCmp.eq_swap]
      cases s with
      | positive =>
        cases t with
        | positive => exact congrArg some turned
        | negative => rfl
      | negative =>
        cases t with
        | positive => rfl
        | negative => exact congrArg (fun order => some order.swap) turned

/-- Two numbers can be compared. -/
theorem isSome_compare {a b : UnpackedFloat} (first : a.isNaN = false) (second : b.isNaN = false) :
    (a.compare b).isSome := by
  cases a with
  | notANumber => cases first
  | infinity s => cases b <;> cases s <;> first | rfl | cases second
  | zero s =>
    cases b with
    | notANumber => cases second
    | infinity t => cases t <;> rfl
    | zero t => rfl
    | finite t n f pos => cases t <;> rfl
  | finite s m e pos =>
    cases b with
    | notANumber => cases second
    | infinity t => cases s <;> cases t <;> rfl
    | zero t => cases s <;> rfl
    | finite t n f pos => cases s <;> cases t <;> rfl

theorem le_iff_compare {a b : Float} :
    a ≤ b ↔ (a.toModel.unpack.compare b.toModel.unpack).any Ordering.isLE = true :=
  decide_eq_true_iff

theorem lt_iff_compare {a b : Float} :
    a < b ↔ a.toModel.unpack.compare b.toModel.unpack = some .lt :=
  decide_eq_true_iff.trans beq_iff_eq

/-- Of two numbers one exceeds the other unless it is at most the other. -/
theorem not_le_iff_lt {a b : Float} (first : a.isNaN = false) (second : b.isNaN = false) :
    ¬ a ≤ b ↔ b < a := by
  obtain ⟨order, compared⟩ := Option.isSome_iff_exists.1
    (isSome_compare (a := b.toModel.unpack) (b := a.toModel.unpack) second first)
  rw [le_iff_compare, lt_iff_compare, compare_eq_map_swap a.toModel.unpack, compared]
  cases order <;> decide

/-- A finite float is a number. -/
theorem isNaN_of_isFinite {a : Float} (finite : a.isFinite = true) : a.isNaN = false := by
  change a.toModel.unpack.isFinite = true at finite
  show a.toModel.unpack.isNaN = false
  cases unpacked : a.toModel.unpack with
  | notANumber => rw [unpacked] at finite; cases finite
  | infinity s => rfl
  | zero s => rfl
  | finite s m e pos => rfl

end Comparison

/-- The three coordinates are finite. -/
theorem Point.isFinite_iff {point : Point} :
    point.isFinite = true ↔
      point.x.isFinite = true ∧ point.y.isFinite = true ∧ point.z.isFinite = true := by
  rw [isFinite, Bool.and_eq_true, Bool.and_eq_true, and_assoc]

namespace Box

/-- All bounds are numbers, and on each axis the lower one does not exceed the upper one. -/
structure WellFormed (box : Box) : Prop where
  numbers : ∀ bound ∈ [box.min.x, box.min.y, box.min.z, box.max.x, box.max.y, box.max.z],
    bound.isNaN = false
  ordered : box.min.x ≤ box.max.x ∧ box.min.y ≤ box.max.y ∧ box.min.z ≤ box.max.z

/-- Every coordinate of the point lies between the bounds, which belong to the box. -/
def Holds (box : Box) (point : Point) : Prop :=
  (box.min.x ≤ point.x ∧ point.x ≤ box.max.x) ∧ (box.min.y ≤ point.y ∧ point.y ≤ box.max.y) ∧
    (box.min.z ≤ point.z ∧ point.z ≤ box.max.z)

/-- Some coordinate of the point lies below the lower or above the upper bound. -/
def Excludes (box : Box) (point : Point) : Prop :=
  (point.x < box.min.x ∨ box.max.x < point.x) ∨ (point.y < box.min.y ∨ box.max.y < point.y) ∨
    (point.z < box.min.z ∨ box.max.z < point.z)

instance (box : Box) (point : Point) : Decidable (box.Holds point) :=
  inferInstanceAs (Decidable (_ ∧ _))

theorem isValid_iff {box : Box} : box.isValid = true ↔ box.WellFormed := by
  simp only [isValid, Point.isNaN, Point.allLE, Bool.and_eq_true, Bool.not_eq_true',
    Bool.or_eq_false_iff]
  constructor
  · rintro ⟨⟨⟨⟨x, y⟩, z⟩, ⟨u, v⟩, w⟩, ⟨first, second⟩, third⟩
    refine ⟨?_, first, second, third⟩
    simp only [List.mem_cons, List.not_mem_nil, or_false, forall_eq_or_imp, forall_eq]
    exact ⟨x, y, z, u, v, w⟩
  · intro formed
    obtain ⟨first, second, third⟩ := formed.ordered
    have number := formed.numbers
    simp only [List.mem_cons, List.not_mem_nil, or_false, forall_eq_or_imp, forall_eq] at number
    obtain ⟨x, y, z, u, v, w⟩ := number
    exact ⟨⟨⟨⟨x, y⟩, z⟩, ⟨u, v⟩, w⟩, ⟨first, second⟩, third⟩

theorem contains_iff {box : Box} {point : Point} :
    box.contains point = true ↔ box.Holds point := by
  simp only [contains, Point.allLE, Bool.and_eq_true]
  constructor
  · rintro ⟨⟨⟨a, b⟩, c⟩, ⟨d, e⟩, f⟩
    exact ⟨⟨a, d⟩, ⟨b, e⟩, ⟨c, f⟩⟩
  · rintro ⟨⟨a, d⟩, ⟨b, e⟩, ⟨c, f⟩⟩
    exact ⟨⟨⟨a, b⟩, c⟩, ⟨d, e⟩, f⟩

theorem not_holds_iff {box : Box} {point : Point} (formed : box.WellFormed)
    (finite : point.isFinite = true) : ¬ box.Holds point ↔ box.Excludes point := by
  obtain ⟨x, y, z⟩ := Point.isFinite_iff.1 finite
  have number := formed.numbers
  simp only [List.mem_cons, List.not_mem_nil, or_false, forall_eq_or_imp, forall_eq] at number
  obtain ⟨lx, ly, lz, ux, uy, uz⟩ := number
  unfold Holds Excludes
  simp only [not_and_or, not_le_iff_lt, isNaN_of_isFinite, x, y, z, lx, ly, lz, ux, uy, uz]

end Box
end MeshSkin
