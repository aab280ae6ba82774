import MeshSkin.Connectivity.Lemmas
import MeshSkin.Mesh
import MeshSkin.Checked

/-!
# The cells of a mesh

Reading the cells of a mesh one by one never fails: it gives one cell for each id, in
increasing order, and each has as many points as its kind admits, all of them points of
the mesh.
-/

namespace MeshSkin.Mesh

theorem isEmpty_iff {mesh : Mesh} : mesh.isEmpty = true ↔ mesh.numCells = 0 := by
  unfold isEmpty numCells
  rw [Array.isEmpty, decide_eq_true_iff]

/-- The cell with this id. -/
def cellAt (mesh : Mesh) (id : Nat) : Cell :=
  ⟨id, mesh.kinds.getD id .empty, mesh.cells.toLists.getD id []⟩

/-- All cells in increasing id order. -/
def cellList (mesh : Mesh) : List Cell := (List.range mesh.numCells).map mesh.cellAt

theorem cellAt_id (mesh : Mesh) (id : Nat) : (mesh.cellAt id).id = id := rfl

theorem length_cellList (mesh : Mesh) : mesh.cellList.length = mesh.numCells := by
  simp [cellList]

/-- One more cell is taken. -/
theorem take_succ_cellList {mesh : Mesh} {done : Nat} (h : done < mesh.numCells) :
    mesh.cellList.take (done + 1) = mesh.cellList.take done ++ [mesh.cellAt done] := by
  have bound : done < mesh.cellList.length := by rw [length_cellList]; exact h
  rw [List.take_succ_eq_append_getElem bound]
  simp [cellList]

/-- From its own place on the list begins with a cell. -/
theorem drop_id_cellList {mesh : Mesh} {id : Nat} (h : id < mesh.numCells) :
    mesh.cellList.drop id = mesh.cellAt id :: mesh.cellList.drop (id + 1) := by
  have bound : id < mesh.cellList.length := by rw [length_cellList]; exact h
  rw [List.drop_eq_getElem_cons bound]
  simp [cellList]

theorem take_numCells_cellList (mesh : Mesh) :
    mesh.cellList.take mesh.numCells = mesh.cellList :=
  List.take_of_length_le (Nat.le_of_eq mesh.length_cellList)

theorem length_toLists (mesh : Mesh) : mesh.cells.toLists.length = mesh.numCells := by
  rw [Connectivity.length_toLists, ← mesh.valid.sameSize, numCells]

theorem kind?_eq_some {mesh : Mesh} {id : Nat} (h : id < mesh.numCells) :
    mesh.kind? id = some (mesh.cellAt id).kind := by
  have bound : id < mesh.kinds.size := h
  simp [kind?, cellAt, Array.getD, bound]

theorem cell?_eq_some {mesh : Mesh} {id : Nat} (h : id < mesh.numCells) :
    mesh.cell? id = some (mesh.cellAt id).points := by
  have bound : id < mesh.cells.toLists.length := by rw [length_toLists]; exact h
  unfold cell?
  rw [Connectivity.cell?_eq_getElem?_toLists]
  simp [cellAt, bound]

theorem lt_numCells_of_cell? {mesh : Mesh} {id : Nat} {ids : List Nat}
    (h : mesh.cell? id = some ids) : id < mesh.numCells := by
  unfold cell? at h
  rw [Connectivity.cell?_eq_getElem?_toLists] at h
  rw [← length_toLists]
  exact (List.getElem?_eq_some_iff.1 h).1

/-- Every cell can be read. -/
theorem allCells?_eq_some (mesh : Mesh) : mesh.allCells? = some mesh.cellList := by
  apply Checked.mapM_eq_map
  intro id member
  have bound := List.mem_range.1 member
  rw [kind?_eq_some bound, cell?_eq_some bound]
  rfl

theorem mem_cellList {mesh : Mesh} {cell : Cell} :
    cell ∈ mesh.cellList ↔ cell.id < mesh.numCells ∧ cell = mesh.cellAt cell.id := by
  unfold cellList
  simp only [List.mem_map, List.mem_range]
  constructor
  · intro given
    obtain ⟨id, bound, rfl⟩ := given
    exact ⟨bound, rfl⟩
  · intro given
    obtain ⟨bound, same⟩ := given
    exact ⟨cell.id, bound, same.symm⟩

theorem cellAt_mem {mesh : Mesh} {id : Nat} (h : id < mesh.numCells) :
    mesh.cellAt id ∈ mesh.cellList := mem_cellList.2 ⟨h, rfl⟩

theorem id_lt_of_mem_take {mesh : Mesh} {cell : Cell} {done : Nat}
    (h : cell ∈ mesh.cellList.take done) : cell.id < done := by
  unfold cellList at h
  rw [← List.map_take, List.take_range] at h
  obtain ⟨id, member, rfl⟩ := List.mem_map.1 h
  have bound := List.mem_range.1 member
  rw [cellAt_id]
  omega

theorem le_id_of_mem_drop {mesh : Mesh} {cell : Cell} {done : Nat}
    (h : cell ∈ mesh.cellList.drop done) : done ≤ cell.id := by
  unfold cellList at h
  rw [← List.map_drop] at h
  obtain ⟨id, member, rfl⟩ := List.mem_map.1 h
  obtain ⟨i, bound, rfl⟩ := List.mem_iff_getElem.1 member
  rw [cellAt_id, List.getElem_drop, List.getElem_range]
  omega

/-- The first cells around one of them. -/
theorem take_cellList_eq_append {mesh : Mesh} {done : Nat} {cell : Cell}
    (listed : cell ∈ mesh.cellList) (early : cell.id < done) :
    mesh.cellList.take done = mesh.cellList.take cell.id ++
      cell :: (mesh.cellList.drop (cell.id + 1)).take (done - (cell.id + 1)) := by
  obtain ⟨bound, same⟩ := mem_cellList.1 listed
  have left : done - cell.id = done - (cell.id + 1) + 1 := by omega
  rw [← List.take_append_drop cell.id (mesh.cellList.take done), List.take_take,
    Nat.min_eq_left (Nat.le_of_lt early), List.drop_take, drop_id_cellList bound, ← same, left,
    List.take_succ_cons]

/-- Kinds and point lists are checked in the pairs in which the cells hold them. -/
theorem mem_zip_of_mem_cellList {mesh : Mesh} {cell : Cell} (h : cell ∈ mesh.cellList) :
    (cell.kind, cell.points) ∈ mesh.kinds.toList.zip mesh.cells.toLists := by
  obtain ⟨bound, same⟩ := mem_cellList.1 h
  have kinds_bound : cell.id < mesh.kinds.size := bound
  have cells_bound : cell.id < mesh.cells.toLists.length := by rw [length_toLists]; exact bound
  refine List.mem_iff_getElem?.2 ⟨cell.id, ?_⟩
  rw [same, cellAt_id, List.getElem?_zip_eq_some]
  simp [cellAt, Array.getD, kinds_bound, cells_bound]

theorem admits_of_mem {mesh : Mesh} {cell : Cell} (h : cell ∈ mesh.cellList) :
    cell.kind.Admits cell.points.length :=
  mesh.valid.admitted _ (mem_zip_of_mem_cellList h)

theorem points_lt_of_mem {mesh : Mesh} {cell : Cell} (h : cell ∈ mesh.cellList) :
    ∀ id ∈ cell.points, id < mesh.numPoints :=
  mesh.valid.inside _ (mem_zip_of_mem_cellList h)

/-- A kind has at least its least number of points. -/
theorem minPointCount_le_of_mem {mesh : Mesh} {cell : Cell} (h : cell ∈ mesh.cellList) :
    cell.kind.minPointCount ≤ cell.points.length := by
  have admitted := admits_of_mem h
  unfold CellKind.Admits at admitted
  split at admitted
  · rename_i expected fixed
    have least := CellKind.minPointCount_of_pointCount fixed
    omega
  · exact admitted

theorem length_points_of_mem {mesh : Mesh} {cell : Cell} {count : Nat}
    (h : cell ∈ mesh.cellList) (fixed : cell.kind.pointCount? = some count) :
    cell.points.length = count := by
  simpa [CellKind.Admits, fixed] using admits_of_mem h

theorem pairwise_id_cellList (mesh : Mesh) :
    mesh.cellList.Pairwise fun first second => first.id < second.id := by
  simpa [cellList, List.pairwise_map, cellAt_id] using List.pairwise_lt_range

end MeshSkin.Mesh
