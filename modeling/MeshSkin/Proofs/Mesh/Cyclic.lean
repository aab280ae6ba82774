import MeshSkin.Proofs.Mesh.Listed
import MeshSkin.Proofs.Skin.Contribution

/-!
# Lexicographic cells made cyclic

The corners of a pixel and of a voxel are listed in lexicographic order. Listed around it instead, a
pixel is a quad and a voxel is a hexahedron on the same points (`Cell.cyclic`). A mesh in which any
pixels and voxels are replaced in this way is still a mesh (`Mesh.cyclic`), with the replaced cells
in the places of the old ones (`Mesh.cellList_cyclic`).
-/

namespace MeshSkin

/-- A pixel as a quad and a voxel as a hexahedron; other cells stay. -/
def Cell.cyclic (cell : Cell) : Cell :=
  match cell.kind with
  | .pixel => ⟨cell.id, .quad, pick cell.points [0, 1, 3, 2]⟩
  | .voxel => ⟨cell.id, .hexahedron, pick cell.points [0, 1, 3, 2, 4, 5, 7, 6]⟩
  | _ => cell

/-- A cell made cyclic if it is chosen. -/
def Cell.cyclicAmong (chosen : Nat → Bool) (cell : Cell) : Cell :=
  if chosen cell.id then cell.cyclic else cell

/-- Picking every place once only changes the order. -/
theorem pick_perm {ids order : List Nat} (each : order.Perm (List.range ids.length)) :
    (pick ids order).Perm ids := by
  have all : pick ids (List.range ids.length) = ids := by
    apply List.ext_getElem (by simp [pick])
    intro i _ bound
    simp [pick, bound]
  have moved := each.map fun i => ids.getD i 0
  rwa [← pick, ← pick, all] at moved

namespace Cell

variable {mesh : Mesh} {cell : Cell} (chosen : Nat → Bool)

/-- What becomes of a cell: a chosen pixel or voxel is replaced, anything else stays. -/
theorem cyclicAmong_cases (cell : Cell) :
    (chosen cell.id = true ∧ cell.kind = .pixel ∧
        cell.cyclicAmong chosen = ⟨cell.id, .quad, pick cell.points [0, 1, 3, 2]⟩) ∨
      (chosen cell.id = true ∧ cell.kind = .voxel ∧
        cell.cyclicAmong chosen =
          ⟨cell.id, .hexahedron, pick cell.points [0, 1, 3, 2, 4, 5, 7, 6]⟩) ∨
      ¬ (chosen cell.id = true ∧ cell.kind = .voxel) ∧ cell.cyclicAmong chosen = cell := by
  unfold cyclicAmong cyclic
  by_cases picked : chosen cell.id = true
  · rw [if_pos picked]
    split
    · rename_i kind
      exact Or.inl ⟨picked, kind, rfl⟩
    · rename_i kind
      exact Or.inr (Or.inl ⟨picked, kind, rfl⟩)
    · rename_i other
      exact Or.inr (Or.inr ⟨fun given => other given.2, rfl⟩)
  · rw [if_neg picked]
    exact Or.inr (Or.inr ⟨fun given => picked given.1, rfl⟩)

theorem id_cyclicAmong : (cell.cyclicAmong chosen).id = cell.id := by
  rcases cyclicAmong_cases chosen cell with ⟨_, _, made⟩ | ⟨_, _, made⟩ | ⟨_, made⟩ <;> rw [made]

/-- A cyclic cell is on the same points. -/
theorem points_cyclicAmong_perm (h : cell ∈ mesh.cellList) :
    (cell.cyclicAmong chosen).points.Perm cell.points := by
  rcases cyclicAmong_cases chosen cell with ⟨_, kind, made⟩ | ⟨_, kind, made⟩ | ⟨_, made⟩
  · have four : cell.points.length = 4 := Mesh.length_points_of_mem h (by rw [kind]; rfl)
    rw [made]
    exact pick_perm (by rw [four]; decide)
  · have eight : cell.points.length = 8 := Mesh.length_points_of_mem h (by rw [kind]; rfl)
    rw [made]
    exact pick_perm (by rw [eight]; decide)
  · rw [made]

/-- The new kind takes as many points. -/
theorem admits_cyclicAmong (h : cell ∈ mesh.cellList) :
    (cell.cyclicAmong chosen).kind.Admits (cell.cyclicAmong chosen).points.length := by
  have admitted := Mesh.admits_of_mem h
  rw [(points_cyclicAmong_perm chosen h).length_eq]
  rcases cyclicAmong_cases chosen cell with ⟨_, kind, made⟩ | ⟨_, kind, made⟩ | ⟨_, made⟩
  · rw [made]
    rwa [kind] at admitted
  · rw [made]
    rwa [kind] at admitted
  · rwa [made]

end Cell

namespace Mesh

/-- A mesh with the chosen cells made cyclic. -/
def cyclic (mesh : Mesh) (chosen : Nat → Bool) : Mesh where
  points := mesh.points
  kinds := ((mesh.cellList.map (Cell.cyclicAmong chosen)).map Cell.kind).toArray
  cells := .ofLists ((mesh.cellList.map (Cell.cyclicAmong chosen)).map Cell.points)
  pointData := mesh.pointData
  cellData := mesh.cellData
  valid := by
    apply valid_of_cells mesh.valid.finite
    · intro made member
      obtain ⟨cell, listed, rfl⟩ := List.mem_map.1 member
      exact Cell.admits_cyclicAmong chosen listed
    · intro made member id used
      obtain ⟨cell, listed, rfl⟩ := List.mem_map.1 member
      exact points_lt_of_mem listed id ((Cell.points_cyclicAmong_perm chosen listed).mem_iff.1 used)
    · exact mesh.valid.pointTuples
    · rw [List.length_map, length_cellList, numCells, mesh.valid.sameSize]
      exact mesh.valid.cellTuples

variable (mesh : Mesh) (chosen : Nat → Bool)

/-- The replaced cells are in the places of the old ones. -/
theorem cellList_cyclic :
    (mesh.cyclic chosen).cellList = mesh.cellList.map (Cell.cyclicAmong chosen) := by
  apply cellList_eq_of_parts rfl
  · exact Connectivity.toLists_ofLists _
  · have ids : Cell.id ∘ Cell.cyclicAmong chosen = Cell.id :=
      funext fun _ => Cell.id_cyclicAmong chosen
    rw [List.map_map, ids, List.length_map, length_cellList, map_id_cellList]

theorem numCells_cyclic : (mesh.cyclic chosen).numCells = mesh.numCells := by
  rw [← length_cellList, cellList_cyclic, List.length_map, length_cellList]

end Mesh
end MeshSkin
