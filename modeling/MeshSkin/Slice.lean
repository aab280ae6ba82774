/-!
# Checked slices

The part of an array between two bounds. A slice exists only when the bounds are in
order and inside the array, so a reader never sees a silently shortened part.
-/

namespace MeshSkin

/-- The entries `lo, …, hi - 1` of `xs`, if there are such entries. -/
def slice? {α : Type} (xs : Array α) (lo hi : Nat) : Option (List α) :=
  if lo ≤ hi ∧ hi ≤ xs.size then some (xs.extract lo hi).toList else none

theorem slice?_eq_some_iff {α : Type} {xs : Array α} {lo hi : Nat} {part : List α} :
    slice? xs lo hi = some part ↔
      lo ≤ hi ∧ hi ≤ xs.size ∧ part = (xs.toList.take hi).drop lo := by
  simp only [slice?]
  split
  · simp_all [List.extract_eq_take_drop, List.drop_take, eq_comm]
  · simp_all only [reduceCtorEq, false_iff]
    omega

end MeshSkin
