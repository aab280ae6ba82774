import MeshSkin.Proofs.Mesh.Cyclic

/-!
# The skin with lexicographic cells made cyclic

Pixels and voxels give the same skin as the quads and hexahedra on the same points. The faces of such
a voxel come in the same order, each listed around instead of lexicographically
(`Skin.faces_cyclicAmong`), and it makes no difference to what hides them. What a voxel emits is
listed around anyway (`Skin.pieces_cyclic`).
-/

namespace MeshSkin

/-- A face of a cell as the cell made cyclic has it. -/
def Cell.turn (chosen : Nat → Bool) (cell : Cell) (face : List Nat) : List Nat :=
  if chosen cell.id = true ∧ cell.kind = .voxel then pick face [0, 1, 3, 2] else face

namespace Skin

variable {mesh : Mesh} {options : Options} {cell : Cell} (chosen : Nat → Bool)

theorem turn_eq_pick (picked : chosen cell.id = true) (kind : cell.kind = .voxel) :
    cell.turn chosen = fun face => pick face [0, 1, 3, 2] :=
  funext fun _ => if_pos ⟨picked, kind⟩

theorem turn_eq_id (kept : ¬ (chosen cell.id = true ∧ cell.kind = .voxel)) :
    cell.turn chosen = id :=
  funext fun _ => if_neg kept

/-- The tables of a voxel and of a hexahedron agree, face by face. -/
theorem faces_cyclicAmong : faces (cell.cyclicAmong chosen) = (faces cell).map (cell.turn chosen) := by
  rcases Cell.cyclicAmong_cases chosen cell with ⟨_, kind, made⟩ | ⟨picked, kind, made⟩ | ⟨kept, made⟩
  · rw [made, faces, faces, kind]
    rfl
  · rw [made, faces, faces, kind, turn_eq_pick chosen picked kind]
    rfl
  · rw [made, turn_eq_id chosen kept, List.map_id]

theorem turn_perm {face : List Nat} (member : face ∈ faces cell) :
    (cell.turn chosen face).Perm face := by
  unfold Cell.turn
  split
  · rename_i given
    have solid : cell.kind.faceTable? = some voxelFaces := by rw [given.2]; rfl
    have four := Contribution.length_faces solid 4 (by decide) face member
    exact pick_perm (by rw [four]; decide)
  · exact List.Perm.refl _

theorem isGhost_cyclic :
    isGhost (mesh.cyclic chosen) options (cell.cyclicAmong chosen) = isGhost mesh options cell := by
  unfold isGhost ghostLevel
  rw [Cell.id_cyclicAmong]
  rfl

theorem isVisible_cyclic (h : cell ∈ mesh.cellList) :
    isVisible (mesh.cyclic chosen) options (cell.cyclicAmong chosen) =
      isVisible mesh options cell := by
  unfold isVisible
  rw [Cell.id_cyclicAmong, (Cell.points_cyclicAmong_perm chosen h).all_eq]
  rfl

/-- The order of the points plays no part in what hides a face. -/
theorem isKept_cyclic {owner : Cell} {face turned : List Nat} (h : turned.Perm face) :
    isKept (mesh.cyclic chosen) options (owner.cyclicAmong chosen) turned =
      isKept mesh options owner face := by
  have hides : ∀ cell ∈ mesh.cellList,
      ((cell.cyclicAmong chosen).id != (owner.cyclicAmong chosen).id &&
          isVisible (mesh.cyclic chosen) options (cell.cyclicAmong chosen) &&
          turned.all fun id => (cell.cyclicAmong chosen).points.contains id) =
        (cell.id != owner.id && isVisible mesh options cell &&
          face.all fun id => cell.points.contains id) := by
    intro cell listed
    have contains : ∀ id, (cell.cyclicAmong chosen).points.contains id = cell.points.contains id :=
      fun id => (Cell.points_cyclicAmong_perm chosen listed).contains_eq
    simp only [Cell.id_cyclicAmong, isVisible_cyclic chosen listed, contains, h.all_eq]
  unfold isKept isHidden
  rw [Mesh.cellList_cyclic, List.any_map]
  apply congrArg (options.interiorFaces || !·)
  rw [Bool.eq_iff_iff, List.any_eq_true, List.any_eq_true]
  refine exists_congr fun cell => and_congr_right fun listed => ?_
  rw [Function.comp_apply, hides cell listed]

theorem keptFaces_cyclic :
    keptFaces (mesh.cyclic chosen) options (cell.cyclicAmong chosen) =
      (keptFaces mesh options cell).map (cell.turn chosen) := by
  unfold keptFaces
  rw [faces_cyclicAmong, List.filter_map]
  apply congrArg (List.map (cell.turn chosen))
  exact List.filter_congr fun face member => isKept_cyclic chosen (turn_perm chosen member)

theorem suppressedFaces_cyclic :
    suppressedFaces (mesh.cyclic chosen) options (cell.cyclicAmong chosen) =
      (suppressedFaces mesh options cell).map (cell.turn chosen) := by
  unfold suppressedFaces
  rw [faces_cyclicAmong, List.filter_map]
  apply congrArg (List.map (cell.turn chosen))
  exact List.filter_congr fun face member =>
    congrArg (!·) (isKept_cyclic chosen (turn_perm chosen member))

/-- A cell contributes the same pieces. -/
theorem pieces_cyclic :
    pieces (mesh.cyclic chosen) options (cell.cyclicAmong chosen) = pieces mesh options cell := by
  have kept : keptFaces (mesh.cyclic chosen) options (cell.cyclicAmong chosen) =
      (keptFaces mesh options cell).map (cell.turn chosen) := keptFaces_cyclic chosen
  rcases Cell.cyclicAmong_cases chosen cell with ⟨_, kind, made⟩ | ⟨picked, kind, made⟩ | ⟨same, made⟩
  · rw [made]
    unfold pieces
    rw [kind]
  · rw [turn_eq_pick chosen picked kind, made] at kept
    rw [made]
    unfold pieces
    rw [kind, kept, List.map_map]
    rfl
  · rw [turn_eq_id chosen same, List.map_id, made] at kept
    rw [made]
    unfold pieces
    rw [kept]

theorem emitted_cyclic (h : cell ∈ mesh.cellList) :
    emitted (mesh.cyclic chosen) options (cell.cyclicAmong chosen) = emitted mesh options cell := by
  unfold emitted isExtracted
  rw [isGhost_cyclic, isVisible_cyclic chosen h, pieces_cyclic]

/-- The new kind is treated as a solid if the old one was, and is as straight. -/
theorem treatment_cyclicAmong (cell : Cell) :
    ((cell.cyclicAmong chosen).kind.treatment == .skip) = (cell.kind.treatment == .skip) ∧
      ((cell.cyclicAmong chosen).kind.treatment == .unknown) = (cell.kind.treatment == .unknown) ∧
        (cell.cyclicAmong chosen).kind.isQuadratic = cell.kind.isQuadratic := by
  rcases Cell.cyclicAmong_cases chosen cell with ⟨_, kind, made⟩ | ⟨_, kind, made⟩ | ⟨_, made⟩
  · rw [made, kind]
    exact ⟨rfl, rfl, rfl⟩
  · rw [made, kind]
    exact ⟨rfl, rfl, rfl⟩
  · rw [made]
    exact ⟨rfl, rfl, rfl⟩

/-- A cell counts as it did. -/
theorem stats_cyclic (h : cell ∈ mesh.cellList) :
    (visit (mesh.cyclic chosen) options (cell.cyclicAmong chosen)).stats =
      (visit mesh options cell).stats := by
  obtain ⟨skip, unknown, curved⟩ := treatment_cyclicAmong chosen cell
  unfold Visit.stats visit
  rw [isGhost_cyclic, isVisible_cyclic chosen h, keptFaces_cyclic, suppressedFaces_cyclic,
    List.length_map, List.length_map]
  cases isGhost mesh options cell <;> cases isVisible mesh options cell <;>
    simp only [Bool.false_eq_true, ↓reduceIte, skip, unknown, curved]

end Skin
end MeshSkin
