import MeshSkin.Proofs.Attribute.Joined
import MeshSkin.Proofs.Mesh.Renumbered

/-!
# Meshes side by side

Two meshes with the same arrays in one: the points of the second come behind those of the first, and
so do its cells, which name their points by the new ids. The cells of such a mesh are those of the
first and the renumbered ones of the second (`Mesh.cellList_join`), and every row of attributes is
where its point or cell is (`Mesh.Joinable.cells`).
-/

namespace MeshSkin.Mesh

/-- Two built meshes whose attributes have the same names, components and storage. -/
structure Joinable (first second : Mesh) : Prop where
  built : first.Built
  built' : second.Built
  pointShapes_eq : second.pointData.shapes = first.pointData.shapes
  cellShapes_eq : second.cellData.shapes = first.cellData.shapes

variable {first second : Mesh}

theorem Joinable.points (joinable : first.Joinable second) :
    first.pointData.Joinable second.pointData first.numPoints second.numPoints where
  shapes_eq := joinable.pointShapes_eq
  tuples := first.valid.pointTuples
  shaped := (built_iff.1 joinable.built).1.1
  tuples' := second.valid.pointTuples
  shaped' := (built_iff.1 joinable.built').1.1

theorem Joinable.cells (joinable : first.Joinable second) :
    first.cellData.Joinable second.cellData first.numCells second.numCells where
  shapes_eq := joinable.cellShapes_eq
  tuples := first.tupleCount?_cellData
  shaped := (built_iff.1 joinable.built).2.1
  tuples' := second.tupleCount?_cellData
  shaped' := (built_iff.1 joinable.built').2.1

/-- The cells of both, those of the second under their new ids. -/
def joinedCells (first second : Mesh) : List Cell :=
  first.cellList ++
    second.cellList.map (Cell.renumber (first.numCells + ·) (first.numPoints + ·))

theorem kinds_joinedCells (first second : Mesh) :
    (first.joinedCells second).map Cell.kind = (first.kinds ++ second.kinds).toList := by
  have same : Cell.kind ∘ Cell.renumber (first.numCells + ·) (first.numPoints + ·) = Cell.kind := rfl
  rw [joinedCells, List.map_append, List.map_map, same, Array.toList_append, kinds_eq_map,
    kinds_eq_map]

theorem points_joinedCells (first second : Mesh) :
    (first.joinedCells second).map Cell.points =
      first.cells.toLists ++ second.cells.toLists.map (List.map (first.numPoints + ·)) := by
  rw [joinedCells, List.map_append, List.map_map, toLists_eq_map, toLists_eq_map, List.map_map]
  rfl

theorem length_joinedCells (first second : Mesh) :
    (first.joinedCells second).length = first.numCells + second.numCells := by
  rw [joinedCells, List.length_append, List.length_map, length_cellList, length_cellList]

/-- Cells of both fit on the points of both. -/
theorem valid_join (joinable : first.Joinable second) :
    Valid (first.points ++ second.points) (first.kinds ++ second.kinds)
      (.ofLists (first.cells.toLists ++
        second.cells.toLists.map (List.map (first.numPoints + ·))))
      (first.pointData.join second.pointData) (first.cellData.join second.cellData) := by
  have kinds : first.kinds ++ second.kinds = ((first.joinedCells second).map Cell.kind).toArray := by
    rw [kinds_joinedCells, Array.toArray_toList]
  have count : (first.points ++ second.points).size = first.numPoints + second.numPoints :=
    Array.size_append
  rw [kinds, ← points_joinedCells]
  apply valid_of_cells
  · intro point member
    rw [Array.toList_append, List.mem_append] at member
    rcases member with here | there
    · exact first.valid.finite point here
    · exact second.valid.finite point there
  · intro cell member
    rcases List.mem_append.1 member with here | there
    · exact admits_of_mem here
    · obtain ⟨source, listed, rfl⟩ := List.mem_map.1 there
      rw [Cell.renumber, List.length_map]
      exact admits_of_mem listed
  · intro cell member id used
    rw [count]
    rcases List.mem_append.1 member with here | there
    · exact Nat.lt_add_right _ (points_lt_of_mem here id used)
    · obtain ⟨source, listed, rfl⟩ := List.mem_map.1 there
      obtain ⟨point, held, rfl⟩ := List.mem_map.1 used
      exact Nat.add_lt_add_left (points_lt_of_mem listed point held) _
  · rw [count]
    exact fun array member => (joinable.points.of_mem_join member).1
  · rw [length_joinedCells]
    exact fun array member => (joinable.cells.of_mem_join member).1

/-- The points and cells of both meshes, those of the second behind those of the first. -/
def join (first second : Mesh) (joinable : first.Joinable second) : Mesh where
  points := first.points ++ second.points
  kinds := first.kinds ++ second.kinds
  cells := .ofLists (first.cells.toLists ++ second.cells.toLists.map (List.map (first.numPoints + ·)))
  pointData := first.pointData.join second.pointData
  cellData := first.cellData.join second.cellData
  valid := valid_join joinable

section Join

variable (joinable : first.Joinable second)

theorem numPoints_join : (first.join second joinable).numPoints =
    first.numPoints + second.numPoints := Array.size_append

theorem numCells_join : (first.join second joinable).numCells =
    first.numCells + second.numCells := Array.size_append

theorem cellList_join :
    (first.join second joinable).cellList = first.joinedCells second := by
  apply cellList_eq_of_parts
  · exact (kinds_joinedCells first second).symm
  · rw [points_joinedCells]
    exact Connectivity.toLists_ofLists _
  · have shifted : Cell.id ∘ Cell.renumber (first.numCells + ·) (first.numPoints + ·) =
        (first.numCells + ·) ∘ Cell.id := rfl
    rw [length_joinedCells, joinedCells, List.map_append, List.map_map, shifted, ← List.map_map,
      map_id_cellList, map_id_cellList, List.range_add]

theorem point?_join_left {id : Nat} (h : id < first.numPoints) :
    (first.join second joinable).point? id = first.point? id :=
  Array.getElem?_append_left h

theorem point?_join_right (id : Nat) :
    (first.join second joinable).point? (first.numPoints + id) = second.point? id := by
  show (first.points ++ second.points)[first.points.size + id]? = second.points[id]?
  rw [Array.getElem?_append_right (Nat.le_add_right _ _), Nat.add_sub_cancel_left]

/-- A builder makes the joined mesh as well. -/
theorem built_join : (first.join second joinable).Built := by
  obtain ⟨⟨_, point_names⟩, _, cell_names⟩ := built_iff.1 joinable.built
  refine built_iff.2 ⟨⟨fun array member => (joinable.points.of_mem_join member).2, ?_⟩,
    fun array member => (joinable.cells.of_mem_join member).2, ?_⟩
  · rw [AttributeTable.Distinct]
    exact joinable.points.names_join ▸ point_names
  · rw [AttributeTable.Distinct]
    exact joinable.cells.names_join ▸ cell_names

end Join

end MeshSkin.Mesh
