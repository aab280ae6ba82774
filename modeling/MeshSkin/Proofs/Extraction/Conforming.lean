import MeshSkin.Proofs.Extraction.Full
import MeshSkin.Proofs.Skin.Conforming

/-!
# Runs over conforming meshes

On a conforming mesh a full run without interior faces suppresses the matched faces of a cell
and no other ones, so it gives one polygon for each unmatched face of an extracted cell
(`Extraction.run_conforming`).
-/

namespace MeshSkin

variable {mesh : Mesh} {options : Options} {cell : Cell} {surface : Surface}

namespace Skin

/-- The number of unmatched faces of all extracted cells. -/
def countUnmatched (mesh : Mesh) (options : Options) : Nat :=
  (mesh.cellList.map fun cell =>
    if isExtracted mesh options cell then (unmatchedFaces mesh options cell).length else 0).sum

theorem isVisible_of_isExtracted (extracted : isExtracted mesh options cell = true) :
    isVisible mesh options cell = true :=
  (Bool.and_eq_true_iff.1 extracted).2

/-- Pieces that need no centre become primitives as they are. -/
theorem primitives_map_primitive (source centre : Nat) (bucket : Bucket)
    (lists : List (List Nat)) :
    primitives source centre (lists.map (.primitive bucket)) =
      lists.map fun ids => ⟨bucket, source, ids⟩ := by
  induction lists generalizing centre with
  | nil => rfl
  | cons ids rest ih =>
    rw [List.map_cons, primitives, ih]
    rfl

/-- A cell of a conforming mesh contributes as many polygons as it has unmatched faces. -/
theorem Conforming.length_polys (conforming : Conforming mesh options)
    (solid : options.interiorFaces = false) (listed : cell ∈ mesh.cellList) :
    ((contribution mesh options cell).filter fun primitive => primitive.bucket == .polys).length =
      if isExtracted mesh options cell then (unmatchedFaces mesh options cell).length else 0 := by
  unfold contribution emitted
  split
  · rename_i extracted
    have visible := isVisible_of_isExtracted extracted
    obtain ⟨outline, outlined⟩ := pieces_of_linear (conforming.linear cell listed visible)
    rw [outlined, primitives_map_primitive, conforming.keptFaces_eq solid listed visible,
      List.filter_eq_self.2, List.length_map, List.length_map]
    intro primitive drawn
    obtain ⟨ids, _, rfl⟩ := List.mem_map.1 drawn
    rfl
  · rfl

end Skin

/-- The polygons of a conforming mesh counted cell by cell. -/
theorem Surface.HoldsSkin.size_polys (holds : surface.HoldsSkin mesh options)
    (conforming : Skin.Conforming mesh options) (solid : options.interiorFaces = false) :
    surface.polys.size = Skin.countUnmatched mesh options := by
  have polys : surface.polys.toLists =
      (Skin.inBucket mesh options .polys).map Primitive.ids := holds.bucket_eq .polys
  rw [← Connectivity.length_toLists, polys, List.length_map, Skin.inBucket, List.length_flatMap,
    Skin.countUnmatched]
  exact congrArg List.sum (List.map_congr_left fun cell listed =>
    conforming.length_polys solid listed)

/-- On a conforming mesh without interior faces: a face of an extracted cell lies on the boundary
unless another visible cell has a face on the same points, each extracted cell draws its unmatched
faces in their order, and these are all the polygons. -/
theorem Extraction.run_conforming (mesh : Mesh) (options : Options) {cadence : Cadence}
    {poll : Nat → Bool} (quiet : cadence.Quiet mesh.numCells poll)
    (solid : options.interiorFaces = false)
    (conforming : Skin.Conforming mesh options.normalized) :
    ∃ survey run, Survey.ofMesh mesh options.normalized = some survey ∧
      Extraction.run mesh options.normalized cadence poll = some run ∧
      (∀ cell ∈ mesh.cellList, Skin.isExtracted mesh options.normalized cell = true →
        (∀ face ∈ Skin.faces cell,
          survey.incidence.isBoundary survey.visibility options.interiorFaces cell.id face =
            some (!Skin.isMatched mesh options.normalized cell face)) ∧
        run.surface.Draws mesh cell.id
          ((Skin.unmatchedFaces mesh options.normalized cell).flatMap
            (Skin.facePieces cell.kind))) ∧
      run.surface.polys.size = Skin.countUnmatched mesh options.normalized := by
  obtain ⟨survey, surveyed, exact⟩ := Survey.ofMesh_exact mesh options.normalized
  obtain ⟨run, runs, holds⟩ := run_holdsSkin mesh options.normalized quiet
  refine ⟨survey, run, surveyed, runs, fun cell listed extracted => ⟨fun face member => ?_, ?_⟩,
    holds.size_polys conforming solid⟩
  · have visible := Skin.isVisible_of_isExtracted extracted
    obtain ⟨table, faces, locals, named, rfl⟩ := Skin.exists_of_mem_faces member
    obtain ⟨_, nonempty, inside⟩ := Contribution.facePoints?_eq_some listed faces named
    rw [← conforming.isKept_eq solid listed visible member]
    exact exact.incidence.isBoundary exact.visibility cell nonempty inside
  · have visible := Skin.isVisible_of_isExtracted extracted
    obtain ⟨table, faces⟩ : ∃ table, cell.kind.faceTable? = some table := by
      have linear := conforming.linear cell listed visible
      rw [CellKind.isLinearSolid, Bool.and_eq_true] at linear
      exact Option.isSome_iff_exists.1 linear.1
    rw [← conforming.keptFaces_eq solid listed visible, ← Skin.pieces_of_solid faces]
    exact holds.draws_pieces listed extracted

/-- Two tetrahedra that meet in a face draw their six other faces. -/
theorem twoTetras_conforming :
    Options.standard.interiorFaces = false ∧
      Skin.Conforming Mesh.twoTetras Options.standard.normalized ∧
      ∃ run, Extraction.run Mesh.twoTetras Options.standard.normalized .standard
        (fun _ => false) = some run ∧ run.surface.polys.size = 6 := by
  have conforming : Skin.Conforming Mesh.twoTetras Options.standard.normalized :=
    ⟨by decide, by decide, by decide⟩
  obtain ⟨_, run, _, runs, _, polys⟩ := Extraction.run_conforming Mesh.twoTetras Options.standard
    (fun _ _ _ => rfl) rfl conforming
  have six : Skin.countUnmatched Mesh.twoTetras Options.standard.normalized = 6 := by decide
  exact ⟨rfl, conforming, run, runs, polys.trans six⟩

end MeshSkin
