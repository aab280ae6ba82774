import MeshSkin.Proofs.Extraction.Full
import MeshSkin.Proofs.Skin.Reveal

/-!
# Runs that reveal

Two full runs over one mesh, the second under options that hide more cells or show interior
faces: what a cell keeps emitting it emits in the same order, apart from the numbers of the
centres, and it may only gain boundary faces (`Extraction.run_reveals`).
-/

namespace MeshSkin

open Skin (Reveals keptFaces facePieces)

/-- Every cell that is extracted in the second run was extracted in the first. A solid has in the
second run all boundary faces that it had in the first, in the same order and possibly with
others between them; a cell of any other kind contributes the same to both. -/
theorem Extraction.run_reveals (mesh : Mesh) (first second : Options)
    {cadence cadence' : Cadence} {poll poll' : Nat → Bool}
    (reveals : Reveals mesh first.normalized second.normalized)
    (quiet : cadence.Quiet mesh.numCells poll) (quiet' : cadence'.Quiet mesh.numCells poll') :
    ∃ before after, Extraction.run mesh first.normalized cadence poll = some before ∧
      Extraction.run mesh second.normalized cadence' poll' = some after ∧
      ∀ cell ∈ mesh.cellList, Skin.isExtracted mesh second.normalized cell = true →
        (cell.kind.faceTable?.isSome = true →
          before.surface.Draws mesh cell.id
            ((keptFaces mesh first.normalized cell).flatMap (facePieces cell.kind)) ∧
          after.surface.Draws mesh cell.id
            ((keptFaces mesh second.normalized cell).flatMap (facePieces cell.kind)) ∧
          (keptFaces mesh first.normalized cell).Sublist
            (keptFaces mesh second.normalized cell)) ∧
        (cell.kind.faceTable? = none → ∃ pieces,
          before.surface.Draws mesh cell.id pieces ∧ after.surface.Draws mesh cell.id pieces) := by
  obtain ⟨before, runs, holds⟩ := run_holdsSkin mesh first.normalized quiet
  obtain ⟨after, runs', holds'⟩ := run_holdsSkin mesh second.normalized quiet'
  refine ⟨before, after, runs, runs', fun cell listed extracted => ?_⟩
  have drawn := holds.draws_pieces listed (reveals.isExtracted listed extracted)
  have drawn' := holds'.draws_pieces listed extracted
  constructor
  · intro solid
    obtain ⟨table, faces⟩ := Option.isSome_iff_exists.1 solid
    rw [Skin.pieces_of_solid faces] at drawn drawn'
    exact ⟨drawn, drawn', reveals.keptFaces_sublist cell⟩
  · intro flat
    refine ⟨Skin.pieces mesh first.normalized cell, drawn, ?_⟩
    rwa [Skin.pieces_of_flat flat]

/-- Without the first of two tetrahedra the second keeps its three faces and gains the one
between them. -/
theorem twoTetras_reveals :
    Reveals Mesh.twoTetras Options.standard.normalized
        (Options.standard.within ⟨1, 1⟩).normalized ∧
      ∃ before after,
        Extraction.run Mesh.twoTetras Options.standard.normalized .standard (fun _ => false) =
          some before ∧
        Extraction.run Mesh.twoTetras (Options.standard.within ⟨1, 1⟩).normalized .standard
          (fun _ => false) = some after ∧
        before.surface.Draws Mesh.twoTetras 1
          [.primitive .polys [0, 2, 4], .primitive .polys [2, 1, 4], .primitive .polys [1, 0, 4]] ∧
        after.surface.Draws Mesh.twoTetras 1
          [.primitive .polys [0, 2, 4], .primitive .polys [2, 1, 4], .primitive .polys [1, 0, 4],
            .primitive .polys [0, 1, 2]] := by
  have reveals : Reveals Mesh.twoTetras Options.standard.normalized
      (Options.standard.within ⟨1, 1⟩).normalized := ⟨rfl, by decide, id⟩
  obtain ⟨before, after, runs, runs', each⟩ :=
    Extraction.run_reveals Mesh.twoTetras Options.standard (Options.standard.within ⟨1, 1⟩)
      reveals (fun _ _ _ => rfl) (fun _ _ _ => rfl)
  obtain ⟨drawn, drawn', _⟩ :=
    (each (Mesh.twoTetras.cellAt 1) (by decide) (by decide)).1 (by decide)
  exact ⟨reveals, before, after, runs, runs', drawn, drawn'⟩

end MeshSkin
