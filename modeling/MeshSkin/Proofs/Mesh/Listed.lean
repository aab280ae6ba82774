import MeshSkin.Mesh.Cells

/-!
# Meshes from lists of cells

Kinds and connectivity taken from a list of cells. They fit together if every cell of the list has
points that its kind admits and that exist (`Mesh.valid_of_cells`), and the cells of a mesh with such
parts are the cells of the list, provided that they stand there in the order of their ids
(`Mesh.cellList_eq_of_parts`).
-/

namespace MeshSkin.Mesh

/-- A mesh has as many kinds and lists of points as cells, in the same order. -/
theorem kinds_eq_map (mesh : Mesh) : mesh.kinds.toList = mesh.cellList.map Cell.kind := by
  apply List.ext_getElem (by rw [List.length_map, length_cellList, Array.length_toList, numCells])
  intro i bound _
  rw [Array.length_toList] at bound
  simp [cellList, cellAt, Array.getD, bound]

theorem toLists_eq_map (mesh : Mesh) : mesh.cells.toLists = mesh.cellList.map Cell.points := by
  apply List.ext_getElem (by rw [List.length_map, length_cellList, length_toLists])
  intro i bound _
  simp [cellList, cellAt, bound]

theorem map_id_cellList (mesh : Mesh) : mesh.cellList.map Cell.id = List.range mesh.numCells := by
  have places : Cell.id ∘ mesh.cellAt = id := rfl
  rw [cellList, List.map_map, places, List.map_id]

theorem valid_of_cells {points : Array Point} {cells : List Cell}
    {pointData cellData : AttributeTable}
    (finite : ∀ point ∈ points.toList, point.isFinite = true)
    (admits : ∀ cell ∈ cells, cell.kind.Admits cell.points.length)
    (inside : ∀ cell ∈ cells, ∀ id ∈ cell.points, id < points.size)
    (point_tuples : ∀ array ∈ pointData.arrays, array.tupleCount? = some points.size)
    (cell_tuples : ∀ array ∈ cellData.arrays, array.tupleCount? = some cells.length) :
    Valid points (cells.map Cell.kind).toArray (.ofLists (cells.map Cell.points)) pointData
      cellData where
  sameSize := by simp [Connectivity.size_ofLists]
  finite := finite
  admitted := by
    intro pair member
    rw [Connectivity.toLists_ofLists, List.zip_map'] at member
    obtain ⟨cell, listed, rfl⟩ := List.mem_map.1 member
    exact admits cell listed
  inside := by
    intro pair member
    rw [Connectivity.toLists_ofLists, List.zip_map'] at member
    obtain ⟨cell, listed, rfl⟩ := List.mem_map.1 member
    exact inside cell listed
  pointTuples := point_tuples
  cellTuples := by simpa [Connectivity.size_ofLists] using cell_tuples

/-- A mesh with the kinds and points of some cells has these cells. -/
theorem cellList_eq_of_parts {mesh : Mesh} {cells : List Cell}
    (kinds : mesh.kinds.toList = cells.map Cell.kind)
    (points : mesh.cells.toLists = cells.map Cell.points)
    (ids : cells.map Cell.id = List.range cells.length) : mesh.cellList = cells := by
  have count : mesh.numCells = cells.length := by
    rw [numCells, ← Array.length_toList, kinds, List.length_map]
  apply List.ext_getElem (by rw [length_cellList, count])
  intro i _ bound
  have id : cells[i].id = i := by
    have here : (cells.map Cell.id)[i]? = some i := by rw [ids, List.getElem?_range bound]
    simpa [bound] using here
  have kind : mesh.kinds.getD i .empty = cells[i].kind := by
    rw [Array.getD_eq_getD_getElem?, ← Array.getElem?_toList, kinds]
    simp [bound]
  have names : mesh.cells.toLists.getD i [] = cells[i].points := by
    rw [points]
    simp [bound]
  simp only [cellList, List.getElem_map, List.getElem_range, cellAt, kind, names]
  generalize cells[i] = cell at id ⊢
  subst id
  rfl

end MeshSkin.Mesh
