import MeshSkin.Proofs.Skin.Renumbered
import MeshSkin.Proofs.Surface.Parts

/-!
# Points of renumbered surfaces

Two assemblies, one over a mesh and one over the mesh renumbered. If the new points of the second
are those of the first on the renumbered points, perhaps in another order, then the surfaces have
the same points with the same attributes, each at the place that the order says
(`Assembly.Follows.pointData`, `Assembly.Follows.node?_eq_some`).
-/

namespace MeshSkin.Assembly

/-- The new points of the second assembly are those of the first: `ρ` renumbers the points of the
mesh and `τ` all points. -/
structure Follows (mesh : Mesh) (first second : Assembly) (ρ τ : Equiv.Perm Nat) : Prop where
  points : ∀ id < mesh.numPoints, τ id = ρ id
  numNewPoints_eq : second.numNewPoints = first.numNewPoints
  new : ∀ (j : Nat) (point : NewPoint), first.newPoints[j]? = some point →
    ∃ i, second.newPoints[i]? = some (point.renumber ρ) ∧
      τ (mesh.numPoints + j) = mesh.numPoints + i

namespace Follows

variable {mesh other : Mesh} {σ ρ τ : Equiv.Perm Nat} {first second : Assembly}
  {surface made : Surface} {stats others : Stats} {aborted stopped : Bool}
  (follows : Follows mesh first second ρ τ) (renumbered : mesh.Renumbered other σ ρ)
  (sound : first.Sound mesh) (sound' : second.Sound other)
  (some_surface : first.finish mesh stats aborted = some surface)
  (some_made : second.finish other others stopped = some made)

include follows renumbered sound sound' some_surface some_made

theorem numPoints_eq : made.numPoints = surface.numPoints := by
  rw [(finished_of_finish sound some_surface).1.numPoints_eq,
    (finished_of_finish sound' some_made).1.numPoints_eq, renumbered.numPoints_eq,
    follows.numNewPoints_eq]

/-- Every point is at its new place. -/
theorem point_eq {id : Nat} (h : id < surface.numPoints) :
    made.points[τ id]? = surface.points[id]? := by
  have finished := (finished_of_finish sound some_surface).1
  have finished' := (finished_of_finish sound' some_made).1
  rw [finished.numPoints_eq] at h
  by_cases old : id < mesh.numPoints
  · rw [follows.points id old, finished.point?_old old,
      finished'.point?_old (renumbered.point_lt.2 old), renumbered.point_eq id old]
  · obtain ⟨j, rfl⟩ := Nat.exists_eq_add_of_le (Nat.le_of_not_lt old)
    have listed : j < first.newPoints.size := Nat.lt_of_add_lt_add_left h
    have new := Array.getElem?_eq_getElem listed
    obtain ⟨i, found, place⟩ := follows.new j _ new
    rw [place, ← renumbered.numPoints_eq, finished'.point?_new, renumbered.numPoints_eq,
      finished.point?_new, found, new]
    rfl

/-- Every row of attributes is at its new place. -/
theorem pointData (shaped : ∀ array ∈ mesh.pointData.arrays, array.WellShaped) :
    surface.pointData.Moved surface.numPoints τ made.pointData := by
  have inside' : ∀ stencil ∈ second.newPoints.toList.map NewPoint.stencil, ∀ entry ∈ stencil,
      entry.1 < mesh.numPoints := renumbered.numPoints_eq ▸ sound'.entry_lt
  have same_length : (second.newPoints.toList.map NewPoint.stencil).length =
      (first.newPoints.toList.map NewPoint.stencil).length := by
    rw [List.length_map, List.length_map]
    exact follows.numNewPoints_eq
  have old : ∀ row < mesh.numPoints, τ row = ρ row ∧ ρ row < mesh.numPoints := by
    intro row bound
    exact ⟨follows.points row bound, renumbered.numPoints_eq ▸ renumbered.point_lt.2 bound⟩
  have count : surface.numPoints =
      mesh.numPoints + (first.newPoints.toList.map NewPoint.stencil).length := by
    rw [(finished_of_finish sound some_surface).1.numPoints_eq, List.length_map]
    rfl
  rw [count]
  refine renumbered.pointData.extend mesh.valid.pointTuples shaped same_length sound.entry_lt
    inside' old ?_ (extend_of_finish some_surface) (extend_of_finish some_made)
  intro j stencil read
  rw [List.getElem?_map, Array.getElem?_toList] at read
  obtain ⟨point, found, rfl⟩ := Option.map_eq_some_iff.1 read
  obtain ⟨i, also, place⟩ := follows.new j point found
  refine ⟨i, ?_, place⟩
  rw [List.getElem?_map, Array.getElem?_toList, also]
  rfl

/-- Every point with its attributes is at its new place. -/
theorem node?_eq_some (shaped : ∀ array ∈ mesh.pointData.arrays, array.WellShaped) {id : Nat}
    (h : id < surface.numPoints) :
    ∃ node, surface.node? id = some node ∧ made.node? (τ id) = some node := by
  have point := point_eq follows renumbered sound sound' some_surface some_made h
  obtain ⟨tuples, found, also⟩ := (pointData follows renumbered sound sound' some_surface some_made
    shaped).within.tuples?_eq_some h
  have read : surface.points[id]? = some surface.points[id] := Array.getElem?_eq_getElem h
  refine ⟨⟨surface.points[id], tuples⟩, ?_, ?_⟩
  · unfold Surface.node?
    rw [read, found]
    rfl
  · unfold Surface.node?
    rw [point, read, also]
    rfl

end Follows
end MeshSkin.Assembly
