import MeshSkin.Proofs.Skin.Carried

/-!
# The skin of a renumbered mesh

Under options that do not ask for ids, the skin of a mesh does not depend on the numbers of its
cells and points. Cells stay visible and ghosts stay ghosts, so the mesh is found in the renumbered
one (`Skin.foundIn_renumber`), and the primitives of a cell are the renumbered ones as soon as its
centres are numbered accordingly (`Skin.Tracks.contribution_eq`).
-/

namespace MeshSkin

/-- The options treat cells and points alike under both of their numbers. -/
structure Options.Ignores (options : Options) (σ ρ : Equiv.Perm Nat) : Prop where
  keepsCell : ∀ id, options.keepsCell (σ id) = options.keepsCell id
  keepsPoint : ∀ id point, options.keepsPoint (ρ id) point = options.keepsPoint id point

theorem filter_isValid_eq_none {range : Option IdRange}
    (invalid : ∀ found ∈ range, found.isValid = false) : range.filter IdRange.isValid = none := by
  rw [Option.filter_eq_none_iff]
  simpa using invalid

/-- Without a valid range of cells no ids of cells are asked for. -/
theorem Options.ignores_cells {options : Options} (σ : Equiv.Perm Nat)
    (unclipped : ∀ range ∈ options.cellIds, range.isValid = false) :
    options.normalized.Ignores σ (Equiv.refl Nat) := by
  refine ⟨fun id => ?_, fun _ _ => rfl⟩
  unfold keepsCell normalized
  rw [filter_isValid_eq_none unclipped]
  rfl

/-- Without a valid range of points no ids of points are asked for. -/
theorem Options.ignores_points {options : Options} (ρ : Equiv.Perm Nat)
    (unclipped : ∀ range ∈ options.pointIds, range.isValid = false) :
    options.normalized.Ignores (Equiv.refl Nat) ρ := by
  refine ⟨fun _ => rfl, fun id point => ?_⟩
  unfold keepsPoint normalized
  rw [filter_isValid_eq_none unclipped]
  rfl

namespace Skin

variable {mesh other : Mesh} {σ ρ : Equiv.Perm Nat} {options : Options}

section Cells

variable (renumbered : mesh.Renumbered other σ ρ) (ignores : options.Ignores σ ρ)

include renumbered ignores

/-- All cells of the renumbered mesh are cells of the original. -/
theorem foundIn_renumber : mesh.FoundIn other options σ ρ where
  cells_injective := σ.injective
  points_injective := ρ.injective
  mem _ := renumbered.mem_cellList
  apart cell listed := by
    obtain ⟨source, present, same⟩ := List.mem_map.1 (renumbered.cellList_perm.mem_iff.1 listed)
    exact Or.inl ⟨source, present, same.symm⟩
  point_eq := renumbered.point_eq
  isGhost_eq _ := isGhost_within renumbered.cellData.within
  isVisible_eq _ := isVisible_within renumbered.point_eq ignores.keepsCell ignores.keepsPoint

end Cells

/-- A numbering of points and centres that goes along with a renumbered mesh. -/
structure Tracks (mesh other : Mesh) (options : Options) (σ ρ τ : Equiv.Perm Nat) : Prop where
  points : ∀ id < mesh.numPoints, τ id = ρ id
  centres : ∀ cell ∈ mesh.cellList, ∀ k < countCentres (emitted mesh options cell),
    τ (firstCentre mesh options cell.id + k) = firstCentre other options (σ cell.id) + k

/-- A cell contributes the same primitives. -/
theorem Tracks.contribution_eq {τ : Equiv.Perm Nat} (tracks : Tracks mesh other options σ ρ τ)
    (found : mesh.FoundIn other options σ ρ) {cell : Cell} (h : cell ∈ mesh.cellList) :
    contribution other options (cell.renumber σ ρ) =
      (contribution mesh options cell).map (Primitive.renumber σ τ) :=
  contribution_renumber tracks.points h (emitted_renumber found h) (tracks.centres cell h)

end Skin
end MeshSkin
