import MeshSkin.Proofs.Skin.Primitives

/-!
# Revealed faces

When the options hide more cells, or show interior faces, a cell that is still extracted keeps
all faces that it kept before, in the same order, and may keep more (`Reveals.keptFaces_sublist`).
A cell without faces contributes the same. So the pieces of a cell change only by those of its
revealed faces.
-/

namespace MeshSkin

/-- The same options with the given range of cells. -/
def Options.within (options : Options) (range : IdRange) : Options :=
  { options with cellIds := some range }

namespace Skin

variable {mesh : Mesh} {options first second : Options} {cell : Cell}

/-- The pieces that a kept face of a solid becomes. -/
def facePieces (kind : CellKind) (face : List Nat) : List Piece :=
  match kind with
  | .voxel => [.primitive .polys (pick face [0, 1, 3, 2])]
  | .quadraticTetra =>
    Subdivision.triangleSplit.map fun corners => .primitive .polys (pick face corners)
  | .quadraticHexahedron => [.quad face]
  | _ => [.primitive .polys face]

theorem pieces_of_solid {table : FaceTable} (solid : cell.kind.faceTable? = some table) :
    pieces mesh options cell = (keptFaces mesh options cell).flatMap (facePieces cell.kind) := by
  unfold pieces
  cases kind : cell.kind <;> rw [kind] at solid <;> cases solid
  case tetra | hexahedron | wedge | pyramid | voxel | quadraticHexahedron =>
    exact List.map_eq_flatMap
  case quadraticTetra => rfl

/-- A cell without faces contributes the same under all options. -/
theorem pieces_of_flat (flat : cell.kind.faceTable? = none) :
    pieces mesh first cell = pieces mesh second cell := by
  unfold pieces
  cases kind : cell.kind <;> rw [kind] at flat <;> first | rfl | cases flat

/-- The second options make no more cells visible than the first, treat ghosts alike and show
interior faces if the first do. -/
structure Reveals (mesh : Mesh) (first second : Options) : Prop where
  ghostLevel_eq : second.ghostLevel = first.ghostLevel
  isVisible : ∀ cell ∈ mesh.cellList,
    isVisible mesh second cell = true → isVisible mesh first cell = true
  interiorFaces : first.interiorFaces = true → second.interiorFaces = true

namespace Reveals

theorem isExtracted (reveals : Reveals mesh first second) (listed : cell ∈ mesh.cellList)
    (extracted : isExtracted mesh second cell = true) : Skin.isExtracted mesh first cell = true := by
  unfold Skin.isExtracted isGhost at extracted ⊢
  rw [reveals.ghostLevel_eq] at extracted
  rw [Bool.and_eq_true] at extracted ⊢
  exact ⟨extracted.1, reveals.isVisible cell listed extracted.2⟩

/-- A face stays kept: what could hide it now would have hidden it before. -/
theorem isKept (reveals : Reveals mesh first second) {face : List Nat}
    (kept : isKept mesh first cell face = true) : Skin.isKept mesh second cell face = true := by
  unfold Skin.isKept at kept ⊢
  rw [Bool.or_eq_true] at kept ⊢
  rcases kept with interior | unhidden
  · exact Or.inl (reveals.interiorFaces interior)
  · right
    rw [Bool.not_eq_true'] at unhidden ⊢
    unfold isHidden at unhidden ⊢
    rw [List.any_eq_false] at unhidden ⊢
    intro other listed hides
    simp only [Bool.and_eq_true] at hides
    obtain ⟨⟨different, visible⟩, contains⟩ := hides
    apply unhidden other listed
    simp only [Bool.and_eq_true]
    exact ⟨⟨different, reveals.isVisible other listed visible⟩, contains⟩

theorem keptFaces_sublist (reveals : Reveals mesh first second) (cell : Cell) :
    (keptFaces mesh first cell).Sublist (keptFaces mesh second cell) :=
  List.monotone_filter_right _ fun _ kept => reveals.isKept kept

end Reveals

/-- A smaller range hides more cells and leaves everything else as it is. -/
theorem reveals_within (mesh : Mesh) (options : Options) {outer inner : IdRange}
    (valid : inner.isValid = true) (low : outer.min ≤ inner.min) (high : inner.max ≤ outer.max) :
    Reveals mesh (options.within outer).normalized (options.within inner).normalized := by
  have inner_le : inner.min ≤ inner.max := by simpa [IdRange.isValid] using valid
  have valid_outer : outer.isValid = true := by
    rw [IdRange.isValid, decide_eq_true_iff]
    omega
  have contains : ∀ id, inner.contains id = true → outer.contains id = true := by
    intro id inside
    simp only [IdRange.contains, Bool.and_eq_true, decide_eq_true_iff] at inside ⊢
    omega
  refine ⟨rfl, fun cell _ visible => ?_, id⟩
  unfold isVisible at visible ⊢
  rw [Bool.and_eq_true] at visible ⊢
  refine ⟨?_, visible.2⟩
  have inside := visible.1
  simp only [Options.keepsCell, Options.normalized, Options.within, Option.filter_some, valid,
    valid_outer, ↓reduceIte, Option.all_some] at inside ⊢
  exact contains cell.id inside

end Skin
end MeshSkin
