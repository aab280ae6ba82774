import MeshSkin.Connectivity

/-!
# Room for more cells

A connectivity can be made with room for cells to come, and squeezed into arrays without spare
room. A cell can also be appended from a source that hands out its ids one at a time. None of this
shows in the cells.
-/

namespace MeshSkin

/-- The entries in an array that has room for nothing else. -/
def fitted {α : Type} (xs : Array α) : Array α :=
  xs.foldl Array.push (Array.emptyWithCapacity xs.size)

theorem fitted_eq {α : Type} (xs : Array α) : fitted xs = xs := by
  unfold fitted
  rw [Array.foldl_push_eq_append rfl]
  simp

namespace Connectivity

/-- No cells, with room for so many cells and ids. -/
def withRoom (cells ids : Nat) : Connectivity :=
  ⟨(Array.emptyWithCapacity (cells + 1)).push 0, Array.emptyWithCapacity ids, .empty⟩

/-- Ids that come one at a time end up behind the others. -/
theorem foldl_push_ids (ids : Array Nat) (cell : List Nat) :
    cell.foldl Array.push ids = ids ++ cell :=
  Array.toList_inj.1 (by simp)

theorem size_append_cell (ids : Array Nat) (cell : List Nat) :
    (ids ++ cell).size = ids.size + cell.length := by
  rw [← Array.length_toList, Array.toList_appendList, List.length_append, Array.length_toList]

/-- Appends one cell, its ids one by one, and tells its index. -/
def addEach (cells : Connectivity) (cell : List Nat) : Nat × Connectivity :=
  let ids := cell.foldl Array.push cells.ids
  let offsets := cells.offsets.push ids.size
  (offsets.size - 2, ⟨offsets, ids, by
    simp only [offsets, ids, foldl_push_ids, size_append_cell]
    exact cells.fit.push cell⟩)

/-- Appending the ids one by one appends the cell. -/
theorem addEach_eq_add (cells : Connectivity) (cell : List Nat) :
    cells.addEach cell = cells.add cell := by
  simp only [addEach, add, push, foldl_push_ids, size_append_cell, size, Array.size_push]
  rfl

/-- The same cells without spare room. -/
def squeeze (cells : Connectivity) : Connectivity :=
  ⟨fitted cells.offsets, fitted cells.ids, by
    rw [fitted_eq, fitted_eq]
    exact cells.fit⟩

theorem squeeze_eq (cells : Connectivity) : cells.squeeze = cells := by
  simp only [squeeze, fitted_eq]

end Connectivity
end MeshSkin
