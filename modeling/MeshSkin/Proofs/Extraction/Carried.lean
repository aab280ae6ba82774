import MeshSkin.Proofs.Extraction.Full
import MeshSkin.Proofs.Skin.Carried

/-!
# Centres as points of a surface

The centres of a cell are points of the surface of all cells, under the ids that the skin gives them
(`Assembly.Finished.point?_centre`). So when all that one skin emits is emitted in another as well,
every point of the one surface is carried to a point of the other with the same coordinates
(`Assembly.Finished.point?_carried`).
-/

namespace MeshSkin

/-- A primitive under other numbers has the attributes of the same cell. -/
theorem Primitive.entry_renumber {mesh other : Mesh} {σ τ : Nat → Nat}
    (within : mesh.cellData.Within mesh.numCells σ other.cellData) {primitive : Primitive}
    (h : primitive.source < mesh.numCells) :
    (primitive.renumber σ τ).entry other = (primitive.entry mesh).renumber σ τ := by
  obtain ⟨tuples, found, also⟩ := within.tuples?_eq_some h
  unfold entry renumber Surface.Entry.renumber
  rw [found, also]

namespace Assembly

variable {mesh other : Mesh} {options options' : Options} {surface made : Surface}

/-- The new points of a cell stand where its centres are numbered. -/
theorem getElem?_newPoints_after {cell : Cell} (listed : cell ∈ mesh.cellList) {j k : Nat}
    (bound : k < Skin.countCentres (Skin.emitted mesh options cell))
    (place : mesh.numPoints + j = Skin.firstCentre mesh options cell.id + k) :
    (after mesh options mesh.numCells).newPoints[j]? = (Skin.newPoints mesh options cell)[k]? := by
  obtain ⟨inside, same⟩ := Mesh.mem_cellList.1 listed
  have before : mesh.numPoints + (after mesh options cell.id).numNewPoints =
      Skin.firstCentre mesh options cell.id := numPoints_add_numNewPoints_after cell.id
  have behind : j = (after mesh options cell.id).newPoints.toList.length + k := by
    rw [Array.length_toList, ← numNewPoints]
    omega
  have own : k < (Skin.newPoints mesh options cell).length := by
    unfold Skin.newPoints
    rwa [Skin.length_flatMap_newPoints]
  rw [← Array.getElem?_toList, newPoints_after_numCells cell.id, behind,
    List.getElem?_append_right (Nat.le_add_right _ _), Nat.add_sub_cancel_left,
    Mesh.drop_id_cellList inside, ← same, List.flatMap_cons, List.getElem?_append_left own]

section Centres

variable (finished : (after mesh options mesh.numCells).Finished mesh surface)

include finished

/-- A point of the surface that is no point of the mesh is a centre of some cell. -/
theorem Finished.exists_centre {id : Nat} (new : mesh.numPoints ≤ id) (h : id < surface.numPoints) :
    ∃ cell ∈ mesh.cellList, ∃ k < Skin.countCentres (Skin.emitted mesh options cell),
      id = Skin.firstCentre mesh options cell.id + k := by
  rw [finished.numPoints_eq, numPoints_add_numNewPoints_after] at h
  obtain ⟨block, inside, k, bound, place⟩ :=
    (Skin.centreBlocks mesh options).exists_place new h
  rw [Skin.size_centreBlocks inside] at bound
  exact ⟨mesh.cellAt block, Mesh.cellAt_mem inside, k, bound, place⟩

/-- The centres of a cell are points of the surface. -/
theorem Finished.point?_centre {cell : Cell} (h : cell ∈ mesh.cellList) {k : Nat}
    (bound : k < Skin.countCentres (Skin.emitted mesh options cell)) :
    surface.points[Skin.firstCentre mesh options cell.id + k]? =
      (Skin.newPoints mesh options cell)[k]?.map NewPoint.position := by
  have behind : mesh.numPoints ≤ Skin.firstCentre mesh options cell.id + k :=
    Nat.le_trans (Skin.numPoints_le_firstCentre _) (Nat.le_add_right _ k)
  obtain ⟨j, place⟩ := Nat.exists_eq_add_of_le behind
  rw [place, finished.point?_new, getElem?_newPoints_after h bound place.symm]

/-- Every point is carried to one with the same coordinates. -/
theorem Finished.point?_carried {σ ρ τ : Nat → Nat}
    (finished' : (after other options' other.numCells).Finished other made)
    (carried : Skin.Carried mesh other options options' σ ρ τ) {id : Nat}
    (h : id < surface.numPoints) : made.points[τ id]? = surface.points[id]? := by
  by_cases old : id < mesh.numPoints
  · rw [carried.points id old, finished.point?_old old, finished'.point?_old (carried.point_lt old),
      carried.point?_eq id old]
  · obtain ⟨cell, listed, k, bound, rfl⟩ := finished.exists_centre (Nat.le_of_not_lt old) h
    have nonempty : Skin.emitted mesh options cell ≠ [] := by
      intro none
      rw [none] at bound
      cases bound
    obtain ⟨listed', emits⟩ := carried.emits cell listed nonempty
    have bound' : k < Skin.countCentres (Skin.emitted other options' (cell.renumber σ ρ)) := by
      rwa [emits, Skin.countCentres_renumber]
    have there := finished'.point?_centre listed' bound'
    rw [carried.centres cell listed k bound, finished.point?_centre listed bound]
    rw [Skin.newPoints_renumber carried.point?_eq listed emits, List.getElem?_map,
      Option.map_map] at there
    exact there

end Centres

end Assembly

namespace Surface.Full

variable {mesh other : Mesh} {options options' : Options} {surface made : Surface}

theorem numPoints_eq (full : surface.Full mesh options) (nonempty : 0 < mesh.numCells) :
    surface.numPoints = Skin.firstCentre mesh options mesh.numCells := by
  rw [(full.finished nonempty).numPoints_eq, Assembly.numPoints_add_numNewPoints_after]

/-- Every point of a full run is carried to one with the same coordinates. -/
theorem point?_carried {σ ρ τ : Nat → Nat} (full : surface.Full mesh options)
    (full' : made.Full other options') (carried : Skin.Carried mesh other options options' σ ρ τ)
    (nonempty' : 0 < mesh.numCells → 0 < other.numCells) {id : Nat} (h : id < surface.numPoints) :
    made.points[τ id]? = surface.points[id]? := by
  have nonempty : 0 < mesh.numCells := by
    by_contra none
    rw [full.no_points (by omega)] at h
    cases h
  exact (full.finished nonempty).point?_carried (full'.finished (nonempty' nonempty)) carried h

end Surface.Full
end MeshSkin
