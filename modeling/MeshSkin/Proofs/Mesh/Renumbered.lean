import Mathlib.Logic.Equiv.Basic
import MeshSkin.Proofs.Attribute.Moved
import MeshSkin.Proofs.Mesh.Building
import MeshSkin.Proofs.Mesh.Listed

/-!
# Meshes under other numbers

A mesh with its cells and its points renumbered: `σ` gives the new id of each cell and `ρ` that of
each point. Kinds, coordinates and rows of attributes go to their new places, and the cells name
the points by their new ids. The cells of such a mesh are those of the original, renumbered, in
another order (`Mesh.Renumbered.cellList_perm`). Every mesh can be renumbered by any permutations
(`Mesh.exists_renumbered`), and a built mesh stays one.
-/

namespace MeshSkin

/-- A permutation that fixes everything from a bound on keeps what is below it there. -/
theorem lt_iff_of_fixed {σ : Equiv.Perm Nat} {bound : Nat}
    (fixed : ∀ id, bound ≤ id → σ id = id) {id : Nat} : σ id < bound ↔ id < bound := by
  constructor
  · intro moved
    by_contra outside
    rw [fixed id (by omega)] at moved
    exact outside moved
  · intro inside
    by_contra moved
    have same := σ.injective (fixed (σ id) (by omega))
    omega

theorem map_range_perm {σ : Equiv.Perm Nat} {bound : Nat} (fixed : ∀ id, bound ≤ id → σ id = id) :
    ((List.range bound).map σ).Perm (List.range bound) := by
  refine (List.perm_ext_iff_of_nodup (List.nodup_range.map σ.injective) List.nodup_range).2
    fun id => ?_
  rw [List.mem_map, List.mem_range]
  constructor
  · intro given
    obtain ⟨other, member, rfl⟩ := given
    exact (lt_iff_of_fixed fixed).2 (List.mem_range.1 member)
  · intro inside
    refine ⟨σ.symm id, List.mem_range.2 ?_, σ.apply_symm_apply id⟩
    rwa [← lt_iff_of_fixed fixed, σ.apply_symm_apply]

namespace AttributeTable

variable {count : Nat} {place : Nat → Nat} {original made : AttributeTable}

/-- Moving the rows keeps the names of the arrays and whole tuples. -/
theorem Moved.names_eq (moved : Moved count place original made) :
    made.arrays.map Attribute.name = original.arrays.map Attribute.name := by
  unfold Moved at moved
  generalize original.arrays = arrays, made.arrays = others at moved
  induction moved with
  | nil => rfl
  | cons head _ ih => rw [List.map_cons, List.map_cons, head.name_eq, ih]

theorem Moved.exists_source (moved : Moved count place original made) {array : Attribute}
    (h : array ∈ made.arrays) :
    ∃ source ∈ original.arrays, Attribute.Moved count place source array := by
  unfold Moved at moved
  generalize original.arrays = arrays, made.arrays = others at moved h ⊢
  induction moved with
  | nil => cases h
  | cons head _ ih =>
    rcases List.mem_cons.1 h with rfl | later
    · exact ⟨_, List.mem_cons_self, head⟩
    · obtain ⟨source, listed, pair⟩ := ih later
      exact ⟨source, List.mem_cons_of_mem _ listed, pair⟩

theorem Moved.wellShaped (moved : Moved count place original made)
    (shaped : ∀ array ∈ original.arrays, array.WellShaped) :
    ∀ array ∈ made.arrays, array.WellShaped := by
  intro array member
  obtain ⟨source, listed, pair⟩ := moved.exists_source member
  exact pair.wellShaped (shaped source listed)

theorem Moved.tupleCount?_eq (moved : Moved count place original made) :
    ∀ array ∈ made.arrays, array.tupleCount? = some count := by
  intro array member
  obtain ⟨_, _, pair⟩ := moved.exists_source member
  exact pair.tupleCount_eq

/-- Gathering the rows in the order of their new places moves them there. -/
theorem moved_of_gathered {place : Equiv.Perm Nat} (fixed : ∀ id, count ≤ id → place id = id)
    (gathered : List.Forall₂ (Attribute.Gathered ((List.range count).map place.symm))
      original.arrays made.arrays) : Moved count place original made := by
  refine gathered.imp fun array other pair => ⟨pair.toLike, ?_, fun row bound => ?_⟩
  · rw [pair.tupleCount_eq, List.length_map, List.length_range]
  · have moved : place row < ((List.range count).map place.symm).length := by
      rw [List.length_map, List.length_range]
      exact (lt_iff_of_fixed fixed).2 bound
    obtain ⟨tuple, found, also⟩ := pair.row_eq (place row) moved
    rw [List.getElem_map, List.getElem_range, place.symm_apply_apply] at found
    exact ⟨tuple, found, also⟩

end AttributeTable

/-- A cell under another id, with the new ids of its points. -/
def Cell.renumber (σ ρ : Nat → Nat) (cell : Cell) : Cell :=
  ⟨σ cell.id, cell.kind, cell.points.map ρ⟩

namespace Mesh

/-- A mesh with other ids for its cells, by `σ`, and for its points, by `ρ`. -/
structure Renumbered (mesh other : Mesh) (σ ρ : Equiv.Perm Nat) : Prop where
  numCells_eq : other.numCells = mesh.numCells
  numPoints_eq : other.numPoints = mesh.numPoints
  cells_fixed : ∀ id, mesh.numCells ≤ id → σ id = id
  points_fixed : ∀ id, mesh.numPoints ≤ id → ρ id = id
  kind_eq : ∀ id < mesh.numCells, other.kind? (σ id) = mesh.kind? id
  cell_eq : ∀ id < mesh.numCells, other.cell? (σ id) = (mesh.cell? id).map (List.map ρ)
  point_eq : ∀ id < mesh.numPoints, other.point? (ρ id) = mesh.point? id
  pointData : mesh.pointData.Moved mesh.numPoints ρ other.pointData
  cellData : mesh.cellData.Moved mesh.numCells σ other.cellData

namespace Renumbered

variable {mesh other : Mesh} {σ ρ : Equiv.Perm Nat} (renumbered : mesh.Renumbered other σ ρ)

include renumbered

theorem cell_lt {id : Nat} : σ id < other.numCells ↔ id < mesh.numCells := by
  rw [renumbered.numCells_eq]
  exact lt_iff_of_fixed renumbered.cells_fixed

theorem point_lt {id : Nat} : ρ id < other.numPoints ↔ id < mesh.numPoints := by
  rw [renumbered.numPoints_eq]
  exact lt_iff_of_fixed renumbered.points_fixed

theorem cellAt_eq {id : Nat} (h : id < mesh.numCells) :
    other.cellAt (σ id) = (mesh.cellAt id).renumber σ ρ := by
  have bound := renumbered.cell_lt.2 h
  have kind := renumbered.kind_eq id h
  have points := renumbered.cell_eq id h
  rw [kind?_eq_some h, kind?_eq_some bound] at kind
  rw [cell?_eq_some h, cell?_eq_some bound] at points
  show (⟨σ id, (other.cellAt (σ id)).kind, (other.cellAt (σ id)).points⟩ : Cell) = _
  rw [Option.some.inj kind, Option.some.inj points]
  rfl

theorem mem_cellList {cell : Cell} (h : cell ∈ mesh.cellList) :
    cell.renumber σ ρ ∈ other.cellList := by
  obtain ⟨bound, same⟩ := Mesh.mem_cellList.1 h
  rw [same, ← renumbered.cellAt_eq bound]
  exact cellAt_mem (renumbered.cell_lt.2 bound)

/-- The cells are those of the original, in another order. -/
theorem cellList_perm : other.cellList.Perm (mesh.cellList.map (Cell.renumber σ ρ)) := by
  have order := (map_range_perm renumbered.cells_fixed).symm.map other.cellAt
  have same : ((List.range mesh.numCells).map σ).map other.cellAt =
      mesh.cellList.map (Cell.renumber σ ρ) := by
    unfold cellList
    rw [List.map_map, List.map_map]
    exact List.map_congr_left fun id member => renumbered.cellAt_eq (List.mem_range.1 member)
  rw [same] at order
  unfold cellList
  rw [renumbered.numCells_eq]
  exact order

end Renumbered

section Order

variable {mesh other : Mesh} {ρ : Equiv.Perm Nat}
  (renumbered : mesh.Renumbered other (Equiv.refl Nat) ρ)

include renumbered

/-- Where the cells keep their ids, they come in the same order. -/
theorem Renumbered.take_cellList (done : Nat) :
    other.cellList.take done =
      (mesh.cellList.take done).map (Cell.renumber (Equiv.refl Nat) ρ) := by
  rw [List.map_take]
  apply congrArg (List.take done)
  unfold cellList
  rw [renumbered.numCells_eq, List.map_map]
  exact List.map_congr_left fun id member => renumbered.cellAt_eq (List.mem_range.1 member)

/-- What the first cells give together, if each of them gives the same with something replaced. -/
theorem Renumbered.flatMap_take {α β : Type} {f : Cell → List β} {g : Cell → List α} {place : α → β}
    (same : ∀ cell ∈ mesh.cellList,
      f (cell.renumber (Equiv.refl Nat) ρ) = (g cell).map place) (done : Nat) :
    (other.cellList.take done).flatMap f = ((mesh.cellList.take done).flatMap g).map place := by
  rw [renumbered.take_cellList, List.flatMap_map, List.map_flatMap]
  exact List.flatMap_congr fun cell taken => same cell (List.mem_of_mem_take taken)

end Order

/-- A built mesh stays one. -/
theorem Renumbered.built {mesh other : Mesh} {σ ρ : Equiv.Perm Nat}
    (renumbered : mesh.Renumbered other σ ρ) (built : mesh.Built) : other.Built := by
  obtain ⟨⟨point_shapes, point_names⟩, cell_shapes, cell_names⟩ := built_iff.1 built
  refine built_iff.2 ⟨⟨renumbered.pointData.wellShaped point_shapes, ?_⟩,
    renumbered.cellData.wellShaped cell_shapes, ?_⟩
  · rwa [AttributeTable.Distinct, renumbered.pointData.names_eq]
  · rwa [AttributeTable.Distinct, renumbered.cellData.names_eq]

section Exists

variable {mesh : Mesh} {σ ρ : Equiv.Perm Nat} (cells_fixed : ∀ id, mesh.numCells ≤ id → σ id = id)
  (points_fixed : ∀ id, mesh.numPoints ≤ id → ρ id = id)

/-- The points and cells of a mesh in the order of their new ids. -/
def renumberedPoints (mesh : Mesh) (ρ : Equiv.Perm Nat) : List Point :=
  (List.range mesh.numPoints).map fun id => mesh.points.getD (ρ.symm id) .origin

def renumberedCells (mesh : Mesh) (σ ρ : Equiv.Perm Nat) : List Cell :=
  (List.range mesh.numCells).map fun id => (mesh.cellAt (σ.symm id)).renumber σ ρ

include cells_fixed in
theorem exists_of_mem_renumberedCells {cell : Cell} (h : cell ∈ mesh.renumberedCells σ ρ) :
    ∃ source ∈ mesh.cellList, cell = source.renumber σ ρ := by
  obtain ⟨id, member, rfl⟩ := List.mem_map.1 h
  refine ⟨_, cellAt_mem ?_, rfl⟩
  rw [← lt_iff_of_fixed cells_fixed, σ.apply_symm_apply]
  exact List.mem_range.1 member

include cells_fixed points_fixed in
/-- Renumbered parts fit together with tables of the right size. -/
theorem valid_renumbered {pointData cellData : AttributeTable}
    (point_tuples : ∀ array ∈ pointData.arrays, array.tupleCount? = some mesh.numPoints)
    (cell_tuples : ∀ array ∈ cellData.arrays, array.tupleCount? = some mesh.numCells) :
    Valid (mesh.renumberedPoints ρ).toArray ((mesh.renumberedCells σ ρ).map Cell.kind).toArray
      (.ofLists ((mesh.renumberedCells σ ρ).map Cell.points)) pointData cellData := by
  have counts : (mesh.renumberedPoints ρ).toArray.size = mesh.numPoints ∧
      (mesh.renumberedCells σ ρ).length = mesh.numCells := by
    simp [renumberedPoints, renumberedCells]
  apply valid_of_cells
  · intro point member
    obtain ⟨id, listed, rfl⟩ := List.mem_map.1 member
    have bound : ρ.symm id < mesh.points.size := by
      rw [← numPoints, ← lt_iff_of_fixed points_fixed, ρ.apply_symm_apply]
      exact List.mem_range.1 listed
    apply mesh.valid.finite
    simp [Array.getD, bound]
  · intro cell listed
    obtain ⟨source, present, rfl⟩ := exists_of_mem_renumberedCells cells_fixed listed
    rw [Cell.renumber, List.length_map]
    exact admits_of_mem present
  · intro cell listed id used
    obtain ⟨source, present, rfl⟩ := exists_of_mem_renumberedCells cells_fixed listed
    obtain ⟨point, held, rfl⟩ := List.mem_map.1 used
    rw [counts.1]
    exact (lt_iff_of_fixed points_fixed).2 (points_lt_of_mem present point held)
  · rwa [counts.1]
  · rwa [counts.2]

/-- The rows of a table can be moved anywhere. -/
theorem exists_moved {table : AttributeTable} {count : Nat} {place : Equiv.Perm Nat}
    (tuples : ∀ array ∈ table.arrays, array.tupleCount? = some count)
    (fixed : ∀ id, count ≤ id → place id = id) : ∃ made, table.Moved count place made := by
  have inside : ∀ row ∈ (List.range count).map place.symm, row < count := by
    intro row member
    obtain ⟨id, listed, rfl⟩ := List.mem_map.1 member
    rw [← lt_iff_of_fixed fixed, place.apply_symm_apply]
    exact List.mem_range.1 listed
  obtain ⟨made, _, gathered⟩ := AttributeTable.gather_eq_some tuples inside
  exact ⟨made, AttributeTable.moved_of_gathered fixed gathered⟩

include cells_fixed in
theorem getElem?_renumberedCells {id : Nat} (h : id < mesh.numCells) :
    (mesh.renumberedCells σ ρ)[σ id]? = some ((mesh.cellAt id).renumber σ ρ) := by
  have bound := (lt_iff_of_fixed cells_fixed).2 h
  rw [renumberedCells, List.getElem?_map, List.getElem?_range bound, Option.map_some,
    σ.symm_apply_apply]

include points_fixed in
theorem getElem?_renumberedPoints {id : Nat} (h : id < mesh.numPoints) :
    (mesh.renumberedPoints ρ)[ρ id]? = mesh.point? id := by
  have bound := (lt_iff_of_fixed points_fixed).2 h
  have inside : id < mesh.points.size := h
  rw [renumberedPoints, List.getElem?_map, List.getElem?_range bound, Option.map_some,
    ρ.symm_apply_apply, point?]
  simp [Array.getD, inside]

include cells_fixed points_fixed in
/-- Every mesh can be renumbered. -/
theorem exists_renumbered : ∃ other, mesh.Renumbered other σ ρ := by
  obtain ⟨pointData, points_moved⟩ := exists_moved mesh.valid.pointTuples points_fixed
  obtain ⟨cellData, cells_moved⟩ := exists_moved mesh.tupleCount?_cellData cells_fixed
  refine ⟨⟨_, _, _, pointData, cellData, valid_renumbered cells_fixed points_fixed
    points_moved.tupleCount?_eq cells_moved.tupleCount?_eq⟩, ?_, ?_, cells_fixed, points_fixed,
    fun id bound => ?_, fun id bound => ?_, fun id bound => ?_, points_moved, cells_moved⟩
  · simp [numCells, renumberedCells]
  · simp [numPoints, renumberedPoints]
  · rw [kind?_eq_some bound, kind?, List.getElem?_toArray, List.getElem?_map,
      getElem?_renumberedCells cells_fixed bound]
    rfl
  · rw [cell?_eq_some bound, cell?, Connectivity.cell?_eq_getElem?_toLists,
      Connectivity.toLists_ofLists, List.getElem?_map, getElem?_renumberedCells cells_fixed bound]
    rfl
  · rw [← getElem?_renumberedPoints points_fixed bound, point?, List.getElem?_toArray]

end Exists

/-- Two curved quads on the same eight points, back to back and raised between the corners. -/
def twoSheets : Mesh where
  points := #[⟨0.0, 0.0, 0.0⟩, ⟨2.0, 0.0, 0.0⟩, ⟨2.0, 2.0, 0.0⟩, ⟨0.0, 2.0, 0.0⟩,
    ⟨1.0, 0.0, 1.0⟩, ⟨2.0, 1.0, 1.0⟩, ⟨1.0, 2.0, 1.0⟩, ⟨0.0, 1.0, 1.0⟩]
  kinds := #[.quadraticQuad, .quadraticQuad]
  cells := .ofLists [[0, 1, 2, 3, 4, 5, 6, 7], [0, 3, 2, 1, 7, 6, 5, 4]]
  pointData := ⟨[⟨"heat", 1, .reals #[0.0, 1.0, 2.0, 3.0, 4.0, 5.0, 6.0, 7.0]⟩,
    ⟨"layer", 1, .bytes #[0, 10, 20, 30, 200, 200, 200, 200]⟩,
    ⟨"depth", 1, .integers #[1, 2, 3, 4, 0, 0, 0, 0]⟩]⟩
  cellData := ⟨[⟨"side", 1, .bytes #[0, 1]⟩]⟩
  valid := check_eq_ok_iff.1 (by decide)

/-- The two sheets, their first two points exchanged. -/
def twoSheetsRenamed : Mesh where
  points := #[⟨2.0, 0.0, 0.0⟩, ⟨0.0, 0.0, 0.0⟩, ⟨2.0, 2.0, 0.0⟩, ⟨0.0, 2.0, 0.0⟩,
    ⟨1.0, 0.0, 1.0⟩, ⟨2.0, 1.0, 1.0⟩, ⟨1.0, 2.0, 1.0⟩, ⟨0.0, 1.0, 1.0⟩]
  kinds := #[.quadraticQuad, .quadraticQuad]
  cells := .ofLists [[1, 0, 2, 3, 4, 5, 6, 7], [1, 3, 2, 0, 7, 6, 5, 4]]
  pointData := ⟨[⟨"heat", 1, .reals #[1.0, 0.0, 2.0, 3.0, 4.0, 5.0, 6.0, 7.0]⟩,
    ⟨"layer", 1, .bytes #[10, 0, 20, 30, 200, 200, 200, 200]⟩,
    ⟨"depth", 1, .integers #[2, 1, 3, 4, 0, 0, 0, 0]⟩]⟩
  cellData := ⟨[⟨"side", 1, .bytes #[0, 1]⟩]⟩
  valid := check_eq_ok_iff.1 (by decide)

/-- The two sheets in the other order. -/
def twoSheetsExchanged : Mesh where
  points := twoSheets.points
  kinds := #[.quadraticQuad, .quadraticQuad]
  cells := .ofLists [[0, 3, 2, 1, 7, 6, 5, 4], [0, 1, 2, 3, 4, 5, 6, 7]]
  pointData := twoSheets.pointData
  cellData := ⟨[⟨"side", 1, .bytes #[1, 0]⟩]⟩
  valid := check_eq_ok_iff.1 (by decide)

theorem twoSheets_built : twoSheets.Built := built_iff.2 (by decide)

theorem twoSheets_renamed :
    twoSheets.Renumbered twoSheetsRenamed (Equiv.refl Nat) (Equiv.swap 0 1) where
  numCells_eq := rfl
  numPoints_eq := rfl
  cells_fixed _ _ := rfl
  points_fixed id outside := by
    have behind : 8 ≤ id := outside
    exact Equiv.swap_apply_of_ne_of_ne (by omega) (by omega)
  kind_eq := by decide
  cell_eq := by decide
  point_eq := by decide
  pointData := .cons (Attribute.Like.moved ⟨rfl, rfl, rfl, by decide⟩ rfl rfl (by decide))
    (.cons (Attribute.Like.moved ⟨rfl, rfl, rfl, by decide⟩ rfl rfl (by decide))
      (.cons (Attribute.Like.moved ⟨rfl, rfl, rfl, by decide⟩ rfl rfl (by decide)) .nil))
  cellData := .cons (Attribute.Like.moved ⟨rfl, rfl, rfl, by decide⟩ rfl rfl (by decide)) .nil

theorem twoSheets_exchanged :
    twoSheets.Renumbered twoSheetsExchanged (Equiv.swap 0 1) (Equiv.refl Nat) where
  numCells_eq := rfl
  numPoints_eq := rfl
  cells_fixed id outside := by
    have behind : 2 ≤ id := outside
    exact Equiv.swap_apply_of_ne_of_ne (by omega) (by omega)
  points_fixed _ _ := rfl
  kind_eq := by decide
  cell_eq := by decide
  point_eq _ _ := rfl
  pointData := .cons (Attribute.Like.moved ⟨rfl, rfl, rfl, by decide⟩ rfl rfl (by decide))
    (.cons (Attribute.Like.moved ⟨rfl, rfl, rfl, by decide⟩ rfl rfl (by decide))
      (.cons (Attribute.Like.moved ⟨rfl, rfl, rfl, by decide⟩ rfl rfl (by decide)) .nil))
  cellData := .cons (Attribute.Like.moved ⟨rfl, rfl, rfl, by decide⟩ rfl rfl (by decide)) .nil

end Mesh
end MeshSkin
