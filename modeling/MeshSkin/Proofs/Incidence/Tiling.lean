import MeshSkin.Proofs.Incidence.Sharers

/-!
# The layout of the incidence

Building the incidence of a mesh never fails. Its offsets cut the array of cells into one part for
each point, without gaps and without overlaps, and the part of a point lists exactly the cells that
contain it, each once and in increasing order. The second pass leaves no slot as it was: from any
other array of the same size it makes the same cells (`Incidence.ofMesh_tiles`).
-/

namespace MeshSkin.Incidence

variable {mesh : Mesh} {incidence : Incidence}

/-- The cells at all points, in the order of the points. -/
def rows? (incidence : Incidence) : Option (List (List Nat)) :=
  (List.range incidence.numPoints).mapM incidence.cellsAt?

/-- The second pass over the cells of a mesh, from the offsets of an incidence and into a buffer. -/
def refill? (incidence : Incidence) (mesh : Mesh) (buffer : Array Nat) : Option Filling :=
  meetAll fill mesh.numPoints mesh.cellList ⟨incidence.offsets.extract 0 mesh.numPoints, buffer⟩

/-- An incidence whose parts are exactly the cells at each point and cover all that it holds. -/
structure Tiles (incidence : Incidence) (mesh : Mesh) : Prop where
  numPoints_eq : incidence.numPoints = mesh.numPoints
  /-- The offsets start at zero, ascend and end at the number of slots. -/
  fit : OffsetsFit incidence.offsets incidence.cells
  rows : ∃ rows, incidence.rows? = some rows ∧ rows.flatten = incidence.cells.toList
  row : ∀ point < mesh.numPoints, ∃ row, incidence.cellsAt? point = some row ∧
    row.Pairwise (· < ·) ∧ ∀ cell, cell ∈ row ↔ ∃ ids, mesh.cell? cell = some ids ∧ point ∈ ids
  unused : ∀ point < mesh.numPoints,
    (∀ cell ids, mesh.cell? cell = some ids → point ∉ ids) → incidence.cellsAt? point = some []
  /-- The place of each point has moved through its own part, and every slot is written. -/
  refill : ∀ buffer : Array Nat, buffer.size = incidence.cells.size →
    incidence.refill? mesh buffer =
      some ⟨incidence.offsets.extract 1 (mesh.numPoints + 1), incidence.cells⟩

theorem mem_idsWhere {property : Cell → Bool} {id : Nat} :
    id ∈ idsWhere mesh property ↔ id < mesh.numCells ∧ property (mesh.cellAt id) = true := by
  unfold idsWhere
  rw [List.mem_map]
  constructor
  · intro given
    obtain ⟨cell, chosen, rfl⟩ := given
    obtain ⟨listed, holds⟩ := List.mem_filter.1 chosen
    obtain ⟨bound, same⟩ := Mesh.mem_cellList.1 listed
    exact ⟨bound, same ▸ holds⟩
  · intro given
    exact ⟨mesh.cellAt id, List.mem_filter.2 ⟨Mesh.cellAt_mem given.1, given.2⟩, mesh.cellAt_id id⟩

theorem mem_cellsWith {point id : Nat} :
    (id ∈ idsWhere mesh fun cell => cell.points.contains point) ↔
      ∃ ids, mesh.cell? id = some ids ∧ point ∈ ids := by
  rw [mem_idsWhere, List.contains_iff_mem]
  constructor
  · intro given
    exact ⟨_, Mesh.cell?_eq_some given.1, given.2⟩
  · intro given
    obtain ⟨ids, found, member⟩ := given
    have bound := Mesh.lt_numCells_of_cell? found
    rw [Mesh.cell?_eq_some bound, Option.some.injEq] at found
    exact ⟨bound, found ▸ member⟩

/-- All rows together have as many cells as there are places before the last offset. -/
theorem length_rows (pairs : List (Nat × Nat)) (count : Nat) :
    ((List.range count).flatMap (rowOf pairs)).length = firstPlace pairs count := by
  induction count with
  | zero => rfl
  | succ count ih =>
    rw [List.range_succ, List.flatMap_append, List.flatMap_singleton, List.length_append, ih]
    rfl

/-- The places at which the rows begin cut the rows apart. -/
theorem places_fit (pairs : List (Nat × Nat)) (numPoints : Nat) :
    OffsetsFit ((List.range (numPoints + 1)).map (firstPlace pairs)).toArray
      ((List.range numPoints).flatMap (rowOf pairs)).toArray where
  starts := by simp [firstPlace]
  ascends := List.pairwise_map.2 (List.pairwise_le_range.imp firstPlace_mono)
  ends := by
    rw [List.size_toArray, length_rows]
    simp [List.range_succ]

/-- The second pass over the cells of a mesh, from the places at which the rows begin. -/
theorem meetAll_fill (mesh : Mesh) {buffer : Array Nat}
    (room : buffer.size = firstPlace (mentions mesh.cellList) mesh.numPoints) :
    meetAll fill mesh.numPoints mesh.cellList
        ⟨((List.range mesh.numPoints).map (firstPlace (mentions mesh.cellList))).toArray, buffer⟩ =
      some ⟨((List.range mesh.numPoints).map fun point =>
          firstPlace (mentions mesh.cellList) (point + 1)).toArray,
        ((List.range mesh.numPoints).flatMap (rowOf (mentions mesh.cellList))).toArray⟩ := by
  have inside : ∀ cell ∈ mesh.cellList, ∀ id ∈ cell.points, id < mesh.numPoints :=
    fun _ => Mesh.points_lt_of_mem
  rw [meetAll_eq_foldlM fill _ inside mesh.pairwise_id_cellList,
    foldlM_fill (snd_lt_of_mem_mentions inside) room]

/-- Building the incidence of a mesh never fails, and its parts are exactly the cells at each
point. -/
theorem ofMesh_tiles (mesh : Mesh) :
    ∃ incidence, ofMesh mesh = some incidence ∧ incidence.Tiles mesh := by
  obtain ⟨incidence, made, exact⟩ := ofMesh_exact mesh
  have closed : incidence =
      ⟨((List.range (mesh.numPoints + 1)).map (firstPlace (mentions mesh.cellList))).toArray,
        ((List.range mesh.numPoints).flatMap (rowOf (mentions mesh.cellList))).toArray⟩ := by
    rw [ofMesh, mesh.allCells?_eq_some] at made
    exact Option.some.inj (made.symm.trans
      (ofCells_eq_some (fun _ => Mesh.points_lt_of_mem) mesh.pairwise_id_cellList))
  have at_point : ∀ point < mesh.numPoints, incidence.cellsAt? point =
      some (idsWhere mesh fun cell => cell.points.contains point) := by
    intro point point_lt
    rw [exact.cellsAt?_eq, if_pos point_lt]
  refine ⟨incidence, made, exact.numPoints_eq, ?fit, ?rows, ?row, ?unused, ?refill⟩
  case fit =>
    rw [closed]
    exact places_fit _ _
  case rows =>
    refine ⟨(List.range mesh.numPoints).map fun point =>
      idsWhere mesh fun cell => cell.points.contains point, ?_, ?_⟩
    · rw [rows?, exact.numPoints_eq]
      exact Checked.mapM_eq_map fun point member => at_point point (List.mem_range.1 member)
    · rw [closed, ← List.flatMap_def]
      exact congrArg (List.flatMap · _) (funext fun point => (rowOf_mentions _ point).symm)
  case row =>
    intro point point_lt
    exact ⟨_, at_point point point_lt, pairwise_idsWhere mesh _, fun _ => mem_cellsWith⟩
  case unused =>
    intro point point_lt lonely
    rw [at_point point point_lt, Option.some.injEq, List.eq_nil_iff_forall_not_mem]
    intro cell member
    obtain ⟨ids, found, used⟩ := mem_cellsWith.1 member
    exact lonely cell ids found used
  case refill =>
    intro buffer room
    rw [closed] at room ⊢
    have next : (Array.extract (List.toArray ((List.range (mesh.numPoints + 1)).map
        (firstPlace (mentions mesh.cellList)))) 0 mesh.numPoints) =
        ((List.range mesh.numPoints).map (firstPlace (mentions mesh.cellList))).toArray := by
      simp [List.range_succ]
    have behind : (Array.extract (List.toArray ((List.range (mesh.numPoints + 1)).map
        (firstPlace (mentions mesh.cellList)))) 1 (mesh.numPoints + 1)) =
        ((List.range mesh.numPoints).map fun point =>
          firstPlace (mentions mesh.cellList) (point + 1)).toArray := by
      simp [List.range_succ_eq_map, Function.comp_def, List.take_of_length_le]
    rw [refill?, next, behind]
    refine meetAll_fill mesh ?_
    rw [room, List.size_toArray, length_rows]

end MeshSkin.Incidence
