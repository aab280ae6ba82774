import MeshSkin.Proofs.Mesh.Renumbered
import MeshSkin.Proofs.Skin.Reveal

/-!
# The skin of a mesh inside another one

The cells of a mesh may be found in another mesh under other numbers, on points that no other cell
there has. What such a cell contributes does not depend on the rest of the other mesh: its faces are
hidden by the same cells (`Skin.isHidden_renumber`), and it emits the same pieces on the new numbers
of their points (`Skin.emitted_renumber`).
-/

namespace MeshSkin

/-- Equal points, where there is one. -/
theorem Mesh.point_getD_of_eq {mesh other : Mesh} {id place : Nat}
    (same : other.point? place = mesh.point? id) :
    other.points.getD place .origin = mesh.points.getD id .origin := by
  unfold point? at same
  rw [Array.getD_eq_getD_getElem?, Array.getD_eq_getD_getElem?, same]

theorem pick_map {ids locals : List Nat} (place : Nat → Nat) (h : ∀ i ∈ locals, i < ids.length) :
    pick (ids.map place) locals = (pick ids locals).map place := by
  unfold pick
  rw [List.map_map]
  apply List.map_congr_left
  intro i member
  have bound := h i member
  simp [List.getD, bound]

/-- A piece on points under other numbers. -/
def Piece.renumber (ρ : Nat → Nat) : Piece → Piece
  | .primitive bucket ids => .primitive bucket (ids.map ρ)
  | .quad ids => .quad (ids.map ρ)

/-- A new point made of points under other numbers. -/
def NewPoint.renumber (ρ : Nat → Nat) (point : NewPoint) : NewPoint :=
  ⟨point.position, point.stencil.renumber ρ⟩

/-- The cells of a mesh are found in another one, cells by `σ` and points by `ρ`. Any other cell
there has none of these points, and the options treat a cell alike in both. -/
structure Mesh.FoundIn (mesh other : Mesh) (options : Options) (σ ρ : Nat → Nat) : Prop where
  cells_injective : σ.Injective
  points_injective : ρ.Injective
  mem : ∀ cell ∈ mesh.cellList, cell.renumber σ ρ ∈ other.cellList
  apart : ∀ cell ∈ other.cellList, (∃ source ∈ mesh.cellList, cell = source.renumber σ ρ) ∨
    ∀ id < mesh.numPoints, ρ id ∉ cell.points
  point_eq : ∀ id < mesh.numPoints, other.point? (ρ id) = mesh.point? id
  isGhost_eq : ∀ cell ∈ mesh.cellList,
    Skin.isGhost other options (cell.renumber σ ρ) = Skin.isGhost mesh options cell
  isVisible_eq : ∀ cell ∈ mesh.cellList,
    Skin.isVisible other options (cell.renumber σ ρ) = Skin.isVisible mesh options cell

namespace Skin

variable {mesh other : Mesh} {σ ρ : Nat → Nat} {options : Options}

theorem renumber_id (cell : Cell) : cell.renumber id id = cell := by
  unfold Cell.renumber
  rw [List.map_id]
  rfl

theorem map_cell_renumber_id (cells : List Cell) : cells.map (Cell.renumber id id) = cells := by
  rw [List.map_congr_left fun cell _ => renumber_id cell, List.map_id']

theorem map_renumber_id (pieces : List Piece) : pieces.map (Piece.renumber id) = pieces := by
  have same : ∀ piece : Piece, piece.renumber id = id piece := by
    intro piece
    cases piece <;> simp [Piece.renumber]
  rw [List.map_congr_left fun piece _ => same piece, List.map_id]

section Options

/-- The ghost level of a cell is that of its row. -/
theorem isGhost_within (within : mesh.cellData.Within mesh.numCells σ other.cellData) {cell : Cell}
    (h : cell ∈ mesh.cellList) :
    isGhost other options (cell.renumber σ ρ) = isGhost mesh options cell := by
  have bound := (Mesh.mem_cellList.1 h).1
  have pair := within.ghostLevels?
  rw [isGhost, isGhost, ghostLevel_eq, ghostLevel_eq, Mesh.ghostLevels?, Mesh.ghostLevels?]
  generalize mesh.cellData.ghostLevels? = levels at pair
  generalize other.cellData.ghostLevels? = others at pair
  cases pair with
  | none => rfl
  | some same =>
    rw [Option.getD_some, Option.getD_some, Array.getD_eq_getD_getElem?, Array.getD_eq_getD_getElem?,
      Cell.renumber, same cell.id bound]

/-- Options that treat the new numbers like the old ones leave a cell as visible as it was. -/
theorem isVisible_within (point_eq : ∀ id < mesh.numPoints, other.point? (ρ id) = mesh.point? id)
    (keepsCell : ∀ id, options.keepsCell (σ id) = options.keepsCell id)
    (keepsPoint : ∀ id point, options.keepsPoint (ρ id) point = options.keepsPoint id point)
    {cell : Cell} (h : cell ∈ mesh.cellList) :
    isVisible other options (cell.renumber σ ρ) = isVisible mesh options cell := by
  unfold isVisible Cell.renumber
  rw [keepsCell, List.all_map]
  apply congrArg (options.keepsCell cell.id && ·)
  rw [Bool.eq_iff_iff, List.all_eq_true, List.all_eq_true]
  refine forall₂_congr fun id member => ?_
  rw [Function.comp_apply, keepsPoint,
    Mesh.point_getD_of_eq (point_eq id (Mesh.points_lt_of_mem h id member))]

end Options

/-- The faces of a solid are on the renumbered points. -/
theorem faces_renumber {cell : Cell} (h : cell ∈ mesh.cellList) :
    faces (cell.renumber σ ρ) = (faces cell).map (List.map ρ) := by
  unfold faces Cell.renumber
  cases solid : cell.kind.faceTable? with
  | none => rfl
  | some table =>
    simp only [List.map_map]
    exact List.map_congr_left fun face member =>
      pick_map ρ (Contribution.local_lt_of_mem h solid member)

section Cells

variable (found : mesh.FoundIn other options σ ρ)

include found

theorem isExtracted_renumber {cell : Cell} (h : cell ∈ mesh.cellList) :
    isExtracted other options (cell.renumber σ ρ) = isExtracted mesh options cell := by
  rw [isExtracted, found.isGhost_eq cell h, found.isVisible_eq cell h, ← isExtracted]

/-- A face is hidden exactly when it was: by the same cells under their new numbers. -/
theorem isHidden_renumber {owner : Cell} {face : List Nat} (nonempty : face ≠ [])
    (inside : ∀ id ∈ face, id < mesh.numPoints) :
    isHidden other options (owner.renumber σ ρ) (face.map ρ) =
      isHidden mesh options owner face := by
  have hides : ∀ cell ∈ mesh.cellList,
      ((cell.renumber σ ρ).id != (owner.renumber σ ρ).id &&
          isVisible other options (cell.renumber σ ρ) &&
          (face.map ρ).all fun id => (cell.renumber σ ρ).points.contains id) =
        (cell.id != owner.id && isVisible mesh options cell &&
          face.all fun id => cell.points.contains id) := by
    intro cell listed
    have contains : ∀ id, (cell.points.map ρ).contains (ρ id) = cell.points.contains id := by
      intro id
      rw [Bool.eq_iff_iff, List.contains_iff_mem, List.contains_iff_mem,
        List.mem_map_of_injective found.points_injective]
    have differs : (σ cell.id != σ owner.id) = (cell.id != owner.id) := by
      rw [bne, bne, found.cells_injective.beq_eq]
    rw [found.isVisible_eq cell listed, List.all_map]
    simp only [Cell.renumber, Function.comp_def, contains, differs]
  unfold isHidden
  rw [Bool.eq_iff_iff, List.any_eq_true, List.any_eq_true]
  constructor
  · intro hidden
    obtain ⟨made, listed, covers⟩ := hidden
    rcases found.apart made listed with ⟨cell, present, rfl⟩ | foreign
    · exact ⟨cell, present, by rwa [hides cell present] at covers⟩
    · -- A cell that has the first point of the face is none of the others.
      obtain ⟨first, rest, rfl⟩ := List.exists_cons_of_ne_nil nonempty
      have has : ρ first ∈ made.points := by
        simp only [Bool.and_eq_true, List.all_eq_true] at covers
        simpa using covers.2 (ρ first) (by simp)
      exact absurd has (foreign first (inside first (by simp)))
  · intro hidden
    obtain ⟨cell, present, covers⟩ := hidden
    exact ⟨cell.renumber σ ρ, found.mem cell present, by rwa [hides cell present]⟩

theorem isKept_renumber {owner : Cell} (h : owner ∈ mesh.cellList) {face : List Nat}
    (member : face ∈ faces owner) :
    isKept other options (owner.renumber σ ρ) (face.map ρ) = isKept mesh options owner face := by
  obtain ⟨nonempty, inside⟩ := points_of_mem_faces h member
  rw [isKept, isHidden_renumber found nonempty inside, isKept]

theorem keptFaces_renumber {cell : Cell} (h : cell ∈ mesh.cellList) :
    keptFaces other options (cell.renumber σ ρ) =
      (keptFaces mesh options cell).map (List.map ρ) := by
  unfold keptFaces
  rw [faces_renumber h, List.filter_map]
  apply congrArg (List.map (List.map ρ))
  exact List.filter_congr fun face member => isKept_renumber found h member

theorem suppressedFaces_renumber {cell : Cell} (h : cell ∈ mesh.cellList) :
    suppressedFaces other options (cell.renumber σ ρ) =
      (suppressedFaces mesh options cell).map (List.map ρ) := by
  unfold suppressedFaces
  rw [faces_renumber h, List.filter_map]
  apply congrArg (List.map (List.map ρ))
  exact List.filter_congr fun face member => congrArg (!·) (isKept_renumber found h member)

end Cells

section Pieces

/-- Pieces cut by a pattern of local numbers. -/
theorem cut_renumber {ids : List Nat} (bucket : Bucket) {pattern : List (List Nat)}
    (h : ∀ locals ∈ pattern, ∀ i ∈ locals, i < ids.length) :
    (pattern.map fun locals => Piece.primitive bucket (pick (ids.map ρ) locals)) =
      (pattern.map fun locals => Piece.primitive bucket (pick ids locals)).map
        (Piece.renumber ρ) := by
  rw [List.map_map]
  exact List.map_congr_left fun locals member =>
    congrArg (Piece.primitive bucket) (pick_map ρ (h locals member))

/-- Four corners in lexicographic order, as a walk around them. -/
theorem ring_renumber {ids : List Nat} (h : ∀ i ∈ [0, 1, 3, 2], i < ids.length) :
    [Piece.primitive .polys (pick (ids.map ρ) [0, 1, 3, 2])] =
      [Piece.primitive .polys (pick ids [0, 1, 3, 2])].map (Piece.renumber ρ) := by
  rw [pick_map ρ h]
  rfl

/-- A face of a solid becomes the same pieces. -/
theorem facePieces_renumber {cell : Cell} {face : List Nat} (member : face ∈ faces cell) :
    facePieces cell.kind (face.map ρ) = (facePieces cell.kind face).map (Piece.renumber ρ) := by
  unfold facePieces
  split
  · rename_i kind
    have solid : cell.kind.faceTable? = some voxelFaces := by rw [kind]; rfl
    have four := Contribution.length_faces solid 4 (by decide) face member
    exact ring_renumber (by rw [four]; decide)
  · rename_i kind
    have solid : cell.kind.faceTable? = some quadraticTetraFaces := by rw [kind]; rfl
    have six := Contribution.length_faces solid 6 (by decide) face member
    exact cut_renumber .polys (by rw [six]; decide)
  · rfl
  · rfl

/-- A cell without faces has the same pieces. -/
theorem pieces_renumber_of_flat {cell : Cell} (h : cell ∈ mesh.cellList)
    (flat : cell.kind.faceTable? = none) :
    pieces other options (cell.renumber σ ρ) =
      (pieces mesh options cell).map (Piece.renumber ρ) := by
  have length_eq : ∀ count, cell.kind.pointCount? = some count → cell.points.length = count :=
    fun _ => Mesh.length_points_of_mem h
  unfold pieces Cell.renumber
  cases kind : cell.kind <;> rw [kind] at flat length_eq
  case tetra | voxel | hexahedron | wedge | pyramid | quadraticTetra | quadraticHexahedron =>
    cases flat
  case pixel =>
    exact ring_renumber (by rw [length_eq 4 rfl]; decide)
  case quadraticEdge => exact cut_renumber .lines (by rw [length_eq 3 rfl]; decide)
  case quadraticTriangle => exact cut_renumber .polys (by rw [length_eq 6 rfl]; decide)
  all_goals rfl

variable (found : mesh.FoundIn other options σ ρ)

include found

theorem pieces_renumber {cell : Cell} (h : cell ∈ mesh.cellList) :
    pieces other options (cell.renumber σ ρ) =
      (pieces mesh options cell).map (Piece.renumber ρ) := by
  cases solid : cell.kind.faceTable? with
  | none => exact pieces_renumber_of_flat h solid
  | some table =>
    have solid' : (cell.renumber σ ρ).kind.faceTable? = some table := solid
    rw [pieces_of_solid solid, pieces_of_solid solid', keptFaces_renumber found h,
      List.flatMap_map, List.map_flatMap]
    apply List.flatMap_congr
    intro face kept
    show facePieces cell.kind (face.map ρ) = _
    exact facePieces_renumber (List.mem_filter.1 kept).1

/-- A cell emits the same pieces. -/
theorem emitted_renumber {cell : Cell} (h : cell ∈ mesh.cellList) :
    emitted other options (cell.renumber σ ρ) =
      (emitted mesh options cell).map (Piece.renumber ρ) := by
  unfold emitted
  rw [isExtracted_renumber found h, pieces_renumber found h]
  split <;> rfl

/-- A cell counts as it did. -/
theorem stats_renumber {cell : Cell} (h : cell ∈ mesh.cellList) :
    (visit other options (cell.renumber σ ρ)).stats = (visit mesh options cell).stats := by
  unfold Visit.stats visit
  rw [found.isGhost_eq cell h, found.isVisible_eq cell h, keptFaces_renumber found h,
    suppressedFaces_renumber found h, List.length_map, List.length_map]
  cases isGhost mesh options cell <;> cases isVisible mesh options cell <;> rfl

end Pieces

end Skin
end MeshSkin
