import MeshSkin.Proofs.Attribute.Arrays
import MeshSkin.Surface.Assembly

/-!
# Finished surfaces

An assembly whose primitives come from cells of the mesh and whose new points are made of
points of the mesh can always be finished. The surface has the buckets as they are, their
cells of origin one bucket after the other, and the attributes of both.
-/

namespace MeshSkin.Assembly

variable {assembly : Assembly} {mesh : Mesh}

/-- Everything an assembly refers to is in the mesh. -/
structure Sound (assembly : Assembly) (mesh : Mesh) : Prop where
  origins : ∀ origin ∈ assembly.origins, origin < mesh.numCells
  stencils : ∀ point ∈ assembly.newPoints.toList, ∀ entry ∈ point.stencil,
    entry.1 < mesh.numPoints

/-- A surface that was made from an assembly. -/
structure Finished (assembly : Assembly) (mesh : Mesh) (surface : Surface) : Prop where
  points_eq : surface.points = mesh.points ++ assembly.newPoints.map NewPoint.position
  bucket_eq : ∀ bucket, surface.bucket bucket = (assembly.bucket bucket).cells
  origins_eq : surface.origins.toList = assembly.origins
  pointData : List.Forall₂ (Attribute.Extended mesh.numPoints assembly.numNewPoints)
    mesh.pointData.arrays surface.pointData.arrays
  cellData : List.Forall₂ (Attribute.Gathered surface.origins.toList)
    mesh.cellData.arrays surface.cellData.arrays
  borrowed_eq : surface.borrowed = assembly.newPoints.isEmpty

/-- The stencils of new points name points of the mesh. -/
theorem Sound.entry_lt (sound : assembly.Sound mesh) :
    ∀ stencil ∈ assembly.newPoints.toList.map NewPoint.stencil, ∀ entry ∈ stencil,
      entry.1 < mesh.numPoints := by
  intro stencil member
  obtain ⟨point, listed, rfl⟩ := List.mem_map.1 member
  exact sound.stencils point listed

/-- The attributes of the points are those of the mesh, with a tuple for each new point. -/
theorem extendPoints_eq_some (sound : assembly.Sound mesh) :
    ∃ pointData, assembly.extendPoints mesh =
        some (mesh.points ++ assembly.newPoints.map NewPoint.position, pointData) ∧
      List.Forall₂ (Attribute.Extended mesh.numPoints assembly.numNewPoints)
        mesh.pointData.arrays pointData.arrays := by
  unfold extendPoints
  split
  · rename_i none
    rw [Array.isEmpty_iff] at none
    refine ⟨mesh.pointData, by simp [none], ?_⟩
    unfold numNewPoints
    rw [none, List.forall₂_same]
    exact fun array member => Attribute.extended_self (mesh.valid.pointTuples array member)
  · obtain ⟨pointData, found, extended⟩ :=
      AttributeTable.extend_eq_some mesh.valid.pointTuples sound.entry_lt
    rw [List.length_map, Array.length_toList] at extended
    exact ⟨pointData, by rw [found]; rfl, extended⟩

/-- A sound assembly can be finished. -/
theorem finish_eq_some (sound : assembly.Sound mesh) (stats : Stats) (aborted : Bool) :
    ∃ surface, assembly.finish mesh stats aborted = some surface ∧
      assembly.Finished mesh surface ∧ surface.stats = stats ∧ surface.aborted = aborted := by
  have inside : ∀ origin ∈ assembly.origins, origin < mesh.cells.size := by
    rw [← mesh.valid.sameSize]
    exact sound.origins
  obtain ⟨cellData, gathered, cells⟩ :=
    AttributeTable.gather_eq_some mesh.valid.cellTuples inside
  obtain ⟨pointData, extended, points⟩ := extendPoints_eq_some sound
  unfold finish
  simp only [gathered, extended, Option.bind_eq_bind, Option.bind_some]
  refine ⟨_, rfl, ⟨rfl, ?_, rfl, points, cells, rfl⟩, rfl, rfl⟩
  intro bucket
  cases bucket <;> rfl

/-- Whatever surface a sound assembly is finished to was made from it. -/
theorem finished_of_finish (sound : assembly.Sound mesh) {stats : Stats} {aborted : Bool}
    {surface : Surface} (h : assembly.finish mesh stats aborted = some surface) :
    assembly.Finished mesh surface ∧ surface.stats = stats ∧ surface.aborted = aborted := by
  obtain ⟨made, found, facts⟩ := finish_eq_some sound stats aborted
  obtain rfl : made = surface := Option.some.inj (found.symm.trans h)
  exact facts

section Points

variable {surface : Surface} (finished : assembly.Finished mesh surface)

include finished

/-- Behind the points of the mesh there are the new ones. -/
theorem Finished.numPoints_eq : surface.numPoints = mesh.numPoints + assembly.numNewPoints := by
  unfold Surface.numPoints
  rw [finished.points_eq, Array.size_append, Array.size_map]
  rfl

theorem Finished.point?_old {id : Nat} (h : id < mesh.numPoints) :
    surface.points[id]? = mesh.point? id := by
  rw [finished.points_eq, Array.getElem?_append_left h]
  rfl

theorem Finished.point?_new (j : Nat) :
    surface.points[mesh.numPoints + j]? = assembly.newPoints[j]?.map NewPoint.position := by
  rw [finished.points_eq, Mesh.numPoints, Array.getElem?_append_right (Nat.le_add_right _ _),
    Nat.add_sub_cancel_left, Array.getElem?_map]

end Points

/-- The attributes of the points are extended by the stencils of the new points, also if there
are none. -/
theorem extend_of_finish {stats : Stats} {aborted : Bool} {surface : Surface}
    (h : assembly.finish mesh stats aborted = some surface) :
    mesh.pointData.extend (assembly.newPoints.toList.map NewPoint.stencil) =
      some surface.pointData := by
  unfold finish at h
  simp only [Option.bind_eq_bind, Option.bind_eq_some_iff, Option.pure_def, Option.some.injEq] at h
  obtain ⟨cellData, _, ⟨points, pointData⟩, extended, rfl⟩ := h
  unfold extendPoints at extended
  split at extended
  · rename_i none
    cases extended
    rw [Array.isEmpty_iff.1 none]
    exact mesh.pointData.extend_nil
  · obtain ⟨_, found, same⟩ := Option.map_eq_some_iff.1 extended
    rw [found, (Prod.mk.inj same).2]

/-- The attributes of the primitives are gathered from their cells of origin. -/
theorem gather_of_finish {stats : Stats} {aborted : Bool} {surface : Surface}
    (h : assembly.finish mesh stats aborted = some surface) :
    mesh.cellData.gather assembly.origins = some surface.cellData := by
  unfold finish at h
  simp only [Option.bind_eq_bind, Option.bind_eq_some_iff, Option.pure_def, Option.some.injEq] at h
  obtain ⟨cellData, gathered, _, _, rfl⟩ := h
  exact gathered

end MeshSkin.Assembly
