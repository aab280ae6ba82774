import MeshSkin.Proofs.Incidence.CountingSort
import MeshSkin.Proofs.Incidence.Search
import MeshSkin.Proofs.Visibility

/-!
# Sharers of a face

The incidence of a mesh lists at each point exactly the cells that contain it
(`ofMesh_exact`). Narrowing therefore ends with the cells that contain every point of a
face (`Exact.sharers`), and a face is found to lie on the boundary exactly when it is kept
by definition (`Exact.isBoundary`).
-/

namespace MeshSkin.Incidence

variable {mesh : Mesh} {options : Options} {incidence : Incidence}

/-- The cells of the mesh with a property, by their ids. -/
def idsWhere (mesh : Mesh) (property : Cell → Bool) : List Nat :=
  (mesh.cellList.filter property).map Cell.id

/-- An incidence that knows every point of the mesh. -/
structure Exact (incidence : Incidence) (mesh : Mesh) : Prop where
  numPoints_eq : incidence.numPoints = mesh.numPoints
  cellsAt?_eq : ∀ point, incidence.cellsAt? point =
    if point < mesh.numPoints then some (idsWhere mesh fun cell => cell.points.contains point)
    else none

/-- Building the incidence of a mesh never fails, and the result is exact. -/
theorem ofMesh_exact (mesh : Mesh) :
    ∃ incidence, ofMesh mesh = some incidence ∧ incidence.Exact mesh := by
  obtain ⟨incidence, built, numPoints_eq, cellsAt?_eq⟩ :=
    ofCells_exact (fun _ => Mesh.points_lt_of_mem) mesh.pairwise_id_cellList
  refine ⟨incidence, ?_, numPoints_eq, cellsAt?_eq⟩
  rw [ofMesh, mesh.allCells?_eq_some]
  exact built

theorem pairwise_idsWhere (mesh : Mesh) (property : Cell → Bool) :
    (idsWhere mesh property).Pairwise (· < ·) := by
  unfold idsWhere
  rw [List.pairwise_map]
  exact mesh.pairwise_id_cellList.filter property

theorem contains_idsWhere {cell : Cell} (h : cell ∈ mesh.cellList) (property : Cell → Bool) :
    (idsWhere mesh property).contains cell.id = property cell := by
  rw [Bool.eq_iff_iff, List.contains_iff_mem, idsWhere, List.mem_map]
  constructor
  · intro given
    obtain ⟨other, member, same⟩ := given
    obtain ⟨listed, holds⟩ := List.mem_filter.1 member
    have equal : other = cell := by
      rw [(Mesh.mem_cellList.1 listed).2, same, ← (Mesh.mem_cellList.1 h).2]
    rwa [← equal]
  · intro holds
    exact ⟨cell, List.mem_filter.2 ⟨h, holds⟩, rfl⟩

/-- Keeping what is found among the cells at a point asks one more thing of each cell. -/
theorem keepFound_idsWhere (first second : Cell → Bool) :
    keepFound (idsWhere mesh second) (idsWhere mesh first) =
      idsWhere mesh fun cell => first cell && second cell := by
  rw [keepFound_eq_filter (pairwise_idsWhere mesh second), idsWhere.eq_def mesh first,
    List.filter_map, List.filter_filter]
  refine congrArg (List.map Cell.id) (List.filter_congr fun cell member => ?_)
  rw [Function.comp_apply, contains_idsWhere member, Bool.and_comm]

/-- Narrowing asks of each candidate to contain all points of a list. -/
theorem Exact.narrow (exact : incidence.Exact mesh) (points : List Nat)
    (property : Cell → Bool) (inside : ∀ point ∈ points, point < mesh.numPoints) :
    incidence.narrow (idsWhere mesh property) points =
      some (idsWhere mesh fun cell => property cell && points.all cell.points.contains) := by
  induction points generalizing property with
  | nil =>
    simp only [List.all_nil, Bool.and_true]
    cases idsWhere mesh property <;> rfl
  | cons point rest ih =>
    have further := ih (fun cell => property cell && cell.points.contains point)
      fun other member => inside other (List.mem_cons_of_mem point member)
    simp only [List.all_cons, ← Bool.and_assoc]
    rw [← further, ← keepFound_idsWhere]
    cases candidates : idsWhere mesh property with
    | nil => cases rest <;> rfl
    | cons head tail =>
      rw [Incidence.narrow, exact.cellsAt?_eq, if_pos (inside point (by simp))]
      · rfl
      · exact List.cons_ne_nil head tail

/-- The cells that share a face are the other cells that contain it. -/
theorem Exact.sharers (exact : incidence.Exact mesh) (owner : Nat) {face : List Nat}
    (nonempty : face ≠ []) (inside : ∀ point ∈ face, point < mesh.numPoints) :
    incidence.sharers owner face =
      some (idsWhere mesh fun cell => cell.id != owner && face.all cell.points.contains) := by
  cases face with
  | nil => exact absurd rfl nonempty
  | cons point rest =>
    have others : (idsWhere mesh fun cell => cell.points.contains point).filter (· != owner) =
        idsWhere mesh fun cell => cell.id != owner && cell.points.contains point := by
      unfold idsWhere
      rw [List.filter_map, List.filter_filter]
      rfl
    rw [Incidence.sharers, exact.cellsAt?_eq, if_pos (inside point (by simp)),
      Option.bind_eq_bind, Option.bind_some, others,
      exact.narrow rest _ fun other member => inside other (List.mem_cons_of_mem point member)]
    simp only [List.all_cons, Bool.and_assoc]

/-- The verdict on a face of a cell is the one by definition. -/
theorem Exact.isBoundary (exact : incidence.Exact mesh) {visibility : Visibility}
    (visible : visibility.Exact mesh options) (owner : Cell) {face : List Nat}
    (nonempty : face ≠ []) (inside : ∀ point ∈ face, point < mesh.numPoints) :
    incidence.isBoundary visibility options.interiorFaces owner.id face =
      some (Skin.isKept mesh options owner face) := by
  unfold Incidence.isBoundary
  rw [Skin.isKept]
  cases options.interiorFaces with
  | true => rfl
  | false =>
    have listed : ∀ cell ∈ mesh.cellList.filter fun cell =>
        cell.id != owner.id && face.all cell.points.contains, cell ∈ mesh.cellList :=
      fun cell member => (List.mem_filter.1 member).1
    rw [exact.sharers owner.id nonempty inside, idsWhere, Option.bind_eq_bind]
    simp only [Bool.false_eq_true, ↓reduceIte, Option.bind_some, visible.anyVisible? _ listed,
      List.any_filter, Bool.false_or]
    refine congrArg (fun hidden => some !hidden) (List.any_congr rfl fun cell => ?_)
    rw [Bool.and_assoc, Bool.and_comm (face.all cell.points.contains), ← Bool.and_assoc]

end MeshSkin.Incidence
